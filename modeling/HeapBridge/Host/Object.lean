import HeapBridge.Host.DictTable
import HeapBridge.Host.Kind
import HeapBridge.Host.SetTable
import HeapBridge.Pointer
/-!
Host objects. An object has a body of one of the built-in kinds; an object of a scripted class has
the body of the kind the class derives from, and the class says which operations it replaces.
-/
namespace HeapBridge.Host

inductive Walk where
  /-- Exhausted; the source has been let go of. -/
  | finished
  /-- The next index into a list, tuple, text or byte string. -/
  | items (source : Ref) (index : Nat)
  /-- How many items of a list are still due, from the end. -/
  | backwards (source : Ref) (due : Nat)
  /-- The next index to ask a scripted object for. -/
  | indices (source : Ref) (index : Nat)
  /-- The next slot of a set, the size it had at the start, and how many elements are still due; a
  walk that has once noticed another size never goes on. -/
  | elements (source : Ref) (position size due : Nat) (broken : Bool)
  /-- The same for a dictionary, by positions. -/
  | entries (source : Ref) (position size due : Nat) (broken : Bool)
  /-- What a suspended generator still has to yield, and what it raises afterwards. -/
  | suspended (receiver : Ref) (arguments : List Ref) (method : String) (pending : List Ref)
      (failure : Option (String × String))
  deriving DecidableEq, Repr

/-- The objects that an iterator keeps alive. What a generator has yet to yield is kept by its
class, not by the generator. -/
def Walk.references : Walk → List Ref
  | .finished => []
  | .items source _ | .backwards source _ | .indices source _ | .elements source _ _ _ _
  | .entries source _ _ _ _ => [source]
  | .suspended receiver arguments _ _ _ => receiver :: arguments

/-- The value that an object carries. -/
inductive Body where
  | nil
  | bool (value : Bool)
  | int (value : Int)
  | float (bits : UInt64)
  | text (codes : CodePoints)
  | bytes (content : List UInt8)
  | list (items : List Ref)
  | tuple (items : List Ref)
  | set (table : SetTable)
  | frozenset (table : SetTable)
  | dict (table : DictTable)
  | plain
  | handle (handle : Handle)
  | walk (kind : Kind) (walk : Walk)
  /-- A look at the keys, values or entries of a dictionary. -/
  | view (kind : Kind) (source : Ref)
  /-- A method together with the object it was taken from. -/
  | method (kind : Kind) (receiver : Ref) (name : String)
  | notImplemented
  | type (name : String)
  deriving DecidableEq, Repr

instance : Inhabited Body := ⟨.plain⟩

namespace Body

def kind : Body → Kind
  | .nil => .nil
  | .bool _ => .bool
  | .int _ => .int
  | .float _ => .float
  | .text _ => .text
  | .bytes _ => .bytes
  | .list _ => .list
  | .tuple _ => .tuple
  | .set _ => .set
  | .frozenset _ => .frozenset
  | .dict _ => .dict
  | .plain => .plain
  | .handle _ => .handle
  | .walk kind _ => kind
  | .view kind _ => kind
  | .method kind _ _ => kind
  | .notImplemented => .notImplemented
  | .type _ => .type

/-- The references that a body holds, one for each time it holds them, in the order in which they are
given up when the object is. -/
def references : Body → List Ref
  | .list items | .tuple items => items.reverse
  | .set table | .frozenset table => table.toList
  | .dict table => table.toList.flatMap fun entry => [entry.key, entry.value]
  | .walk _ state => state.references
  | .view _ source => [source]
  | .method _ receiver _ => [receiver]
  | _ => []

def elements? : Body → Option SetTable
  | .set table | .frozenset table => some table
  | _ => none

def entries? : Body → Option DictTable
  | .dict table => some table
  | _ => none

def items? : Body → Option (List Ref)
  | .list items | .tuple items => some items
  | _ => none

/-- The integer that a body carries; a truth value is one, too. -/
def int? : Body → Option Int
  | .int value => some value
  | .bool value => some (if value then 1 else 0)
  | _ => none

def codes? : Body → Option CodePoints
  | .text codes => some codes
  | _ => none

def isHandle : Body → Bool
  | .handle _ => true
  | _ => false

/-- Whether all there is of a body is one object, which the host has from the start. -/
def isUnique : Body → Bool
  | .nil | .bool _ | .notImplemented => true
  | _ => false

/-- Whether an object with the first body may go on with the second one. Only containers and
iterators change, and each stays of its kind. -/
def canBecome : Body → Body → Bool
  | .list _, .list _ | .set _, .set _ | .frozenset _, .frozenset _ | .dict _, .dict _ => true
  | .walk kind _, .walk other _ => kind = other
  | _, _ => false

end Body

inductive Action where
  /-- Return always the same object. -/
  | give (result : Ref)
  | raise (exception text : String)
  /-- Be a generator that yields these objects and then returns or raises. -/
  | yield (items : List Ref) (failure : Option (String × String))
  /-- Call a method of another object, then return always the same object. -/
  | call (receiver : Ref) (method : String) (arguments : List Ref) (result : Ref)
  deriving DecidableEq, Repr

def Action.references : Action → List Ref
  | .give result => [result]
  | .raise _ _ => []
  | .yield items _ => items
  | .call receiver _ arguments result => receiver :: result :: arguments

/-- A class derived from a built-in type by replacing some of its methods. -/
structure Script where
  name : String
  base : Kind
  methods : List (String × Action)
  deriving DecidableEq, Repr

namespace Script

def method? (script : Script) (name : String) : Option Action := script.methods.lookup name

/-- A class that replaces equality without replacing hashing has no hash. -/
def isUnhashable (script : Script) : Bool :=
  (script.method? "__eq__").isSome && (script.method? "__hash__").isNone

def references (script : Script) : List Ref := script.methods.flatMap (·.2.references)

end Script

structure Object where
  body : Body
  /-- The number of the scripted class, if the object is of one. -/
  script : Option Nat := none
  /-- Attributes of the object's own, in the order in which they were set first. -/
  attributes : List (String × Ref) := []
  /-- Whether the object was once told that it is about to be given up. -/
  finalized : Bool := false
  deriving DecidableEq, Repr

instance : Inhabited Object := ⟨{ body := .plain }⟩

def Object.references (object : Object) : List Ref :=
  object.attributes.map (·.2) ++ object.body.references

/-- What may become of an object while it lives: it stays of its class, and its body stays what it is
unless it is one that changes. -/
def Object.Becomes (old new : Object) : Prop :=
  new.script = old.script ∧ (new.body = old.body ∨ old.body.canBecome new.body = true)

end HeapBridge.Host
