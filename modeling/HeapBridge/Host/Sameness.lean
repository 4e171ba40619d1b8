import HeapBridge.Host.Evaluation
/-!
Sameness of host objects: two references are the same if they name one object or if comparing the
objects answers something true. It is how containers tell their items apart.
-/
namespace HeapBridge.Host

/-- Whether comparing two objects answers something true. An object need not equal itself. -/
def equal (ops : Ops) (a b : Ref) : HostM Bool := do decided ops (← ops.compare .equal a b)

/-- Whether two references name one object or equal ones. -/
def same (ops : Ops) (a b : Ref) : HostM Bool := if a = b then return true else equal ops a b

/-- Runs an operation on two objects that may be dropped by their containers meanwhile. -/
def keepingBoth {α : Type} (ops : Ops) (a b : Ref) (action : HostM α) : HostM α := do
  let heap ← heap
  if heap.isInert a && heap.isInert b then action else keeping ops [a, b] action

/-- Whether the item of a container is the same as an object that the container does not hold. -/
def matching (ops : Ops) (item key : Ref) : HostM Bool := do
  let heap ← heap
  if heap.isInert item && heap.isInert key then same ops item key
  else keeping ops [item] (holding [key] (same ops item key))

end HeapBridge.Host
