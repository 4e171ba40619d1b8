import HeapBridge.Host.Evaluation
/-!
The arguments of built-in methods. A method takes a fixed number of arguments, or a number within
bounds; any other number is refused in words that depend on how the method is called.
-/
namespace HeapBridge.Host.Arguments

/-- A number of arguments in words. -/
def counted (count : Nat) : String :=
  toString count ++ (if count = 1 then " argument" else " arguments")

def refuse {α : Type} (text : String) : HostM α := fail (.wrongArguments text)

def only (method : String) : List Ref → HostM Ref
  | [argument] => return argument
  | arguments => refuse s!"{method}() takes exactly one argument ({arguments.length} given)"

def nothing (method : String) : List Ref → HostM Unit
  | [] => return ()
  | arguments => refuse s!"{method}() takes no arguments ({arguments.length} given)"

/-- Makes sure that the number of arguments lies within bounds. -/
def between (method : String) (least most : Nat) (arguments : List Ref) : HostM Unit :=
  let given := arguments.length
  if given < least then
    let bound := if least = most then "" else "at least "
    refuse s!"{method} expected {bound}{counted least}, got {given}"
  else if most < given then
    let bound := if least = most then "" else "at most "
    refuse s!"{method} expected {bound}{counted most}, got {given}"
  else return ()

/-- Makes sure that an operation is called with that number of operands. -/
def operands (count : Nat) (arguments : List Ref) : HostM Unit :=
  if arguments.length = count then return ()
  else refuse s!"expected {counted count}, got {arguments.length}"

def operand : List Ref → HostM Ref
  | [argument] => return argument
  | arguments => refuse s!"expected {counted 1}, got {arguments.length}"

/-- How often a sequence is to be repeated. -/
def factor : List Ref → HostM Ref
  | [argument] => return argument
  | arguments => refuse s!" expected {counted 1}, got {arguments.length}"

def assignment : List Ref → HostM (Ref × Ref)
  | [first, second] => return (first, second)
  | arguments => refuse s!" expected {counted 2}, got {arguments.length}"

end HeapBridge.Host.Arguments
