import HeapBridge.Host.Literal
import HeapBridge.Conversion
import HeapBridge.Session.Reply
import HeapBridge.Session.Slots
/-!
Sessions. A session names what it works with by slots: host objects, native objects, reserved
storage, native values and iterations each have a name space of their own. A slot owns a reference
to what it names; a slot for a native object may own several, and is gone with the last of them.
-/
namespace HeapBridge

open Host (Ref Form PointerName HostM)
open Native (NativeClass)

structure HostSlot where
  ref : Ref
  /-- The number of references to the object when the slot was filled. -/
  base : Nat
  deriving DecidableEq, Repr

structure ObjectSlot where
  address : Nat
  /-- The number of references that the slot owns. -/
  owned : Nat
  hOwned : 0 < owned
  deriving DecidableEq, Repr

/-- Who steps an iterator, and in which form its elements are handed out. -/
inductive Stepping where
  /-- As native values. -/
  | native
  /-- As host objects. -/
  | cursor
  /-- As host objects, by the exported function. -/
  | exported
  deriving DecidableEq, Repr

/-- An iterator under way. -/
structure Iteration where
  number : Nat
  stepping : Stepping
  /-- Whether the order of the elements is determined. -/
  ordered : Bool
  seen : List ElementForm := []

structure Session where
  world : World := {}
  hosts : Slots HostSlot := ∅
  objects : Slots ObjectSlot := ∅
  /-- The addresses that slots named until they were released. -/
  released : Slots Nat := ∅
  storage : Slots (Nat × NativeClass) := ∅
  values : Slots NativeValue := ∅
  iterations : Slots Iteration := ∅
  /-- How many of the calls to disciplines have been reported. -/
  reported : Nat := 0

instance : Inhabited Session := ⟨{}⟩

/-- A command of a session. What it changed before it failed stays changed. -/
abbrev SessionM := ExceptT Failure (StateM Session)

namespace Session

/-- The thread that commands run on. -/
def thread : Thread := 0

def reject {α : Type} (rejection : Rejection) : SessionM α := throw (.rejected rejection)

def content {α : Type} (slots : Session → Slots α) (name : String) : SessionM α := do
  match (slots (← get)).get? name with
  | some content => return content
  | none => reject (.noSlot name)

def modifyWorld (change : World → World) : SessionM Unit :=
  modify fun session => { session with world := change session.world }

def failFor {α : Type} (fault : Host.Fault) : SessionM α := do
  let text ← modifyGet fun session =>
    let (text, world) := session.world.textFrom (Host.describe Host.ops fault)
    (text, { session with world })
  throw (.host text)

def host {α : Type} (operation : HostM α) : SessionM α := do
  let result ← modifyGet fun session =>
    let (result, world) := HostM.runOn operation session.world
    (result, { session with world })
  match result with
  | .ok value => return value
  | .error fault => failFor fault

def bridge {α : Type} (operation : BridgeM α) : SessionM α := do
  let result ← modifyGet fun session =>
    let (result, world) := operation.run session.world
    (result, { session with world })
  match result with
  | .ok value => return value
  | .error error => throw (.bridge error)

/-- Builds a literal. The object is in flight. -/
def build (literal : Host.Literal) : SessionM Ref := do
  let session ← get
  match ← host (literal.build fun name => (session.hosts.get? name).map (·.ref)).run with
  | .ok ref => return ref
  | .error name => reject (.noSlot name)

def buildEach : List Host.Literal → SessionM (List Ref)
  | [] => return []
  | literal :: rest => return (← build literal) :: (← buildEach rest)

/-- Runs a part of a command that answers a host object. Its arguments are let go of afterwards, while
the answer stays in flight. -/
def withArguments (arguments : List Ref) (action : SessionM Ref) : SessionM Ref := do
  modifyWorld (·.holdAll arguments)
  let letGo := modifyWorld fun world => arguments.foldl (fun world ref => world.letGo ref) world
  let answer ← tryCatch action fun failure => do
    letGo
    throw failure
  modifyWorld (·.hold answer)
  letGo
  modifyWorld (·.unhold answer)
  return answer

/-- A pointer by a slot with an object at its address, and by its number if there is none. -/
def pointerName (session : Session) (pointer : Pointer) : PointerName :=
  let isSame (other : Pointer) : Bool := other.number = pointer.number
  if pointer.isNull then .null
  else
    match session.objects.nameOf? fun slot => isSame (.native slot.address),
      session.released.nameOf? fun address => isSame (.native address),
      session.hosts.nameOf? fun slot => isSame (.host slot.ref) with
    | some name, _, _ | none, some name, _ => .native name
    | none, none, some name => .host name
    | none, none, none => .number pointer.number

def pointerNameFor (session : Session) (passed : Ref) (pointer : Pointer) : PointerName :=
  if pointer.number = (Pointer.host passed).number then .self else session.pointerName pointer

def formOf (session : Session) (ref : Ref) : Form :=
  session.world.host.form session.pointerName ref

def nativeFormOf (session : Session) : NativeValue → NativeForm
  | .nil => .nil
  | .bool value => .bool value
  | .int value => .int value
  | .float bits => .float bits
  | .text value => .text value
  | .set address => .set (session.formOf ((session.world.native.backing? address).getD .nil))
  | .host ref => .host (session.formOf ref)

/-- Puts a host object into a slot, which takes a reference. -/
def keepHost (name : String) (ref : Ref) : SessionM Unit := do
  let old := (← get).hosts.get? name
  modifyWorld (·.hold ref)
  modify fun session =>
    let slot := { ref, base := session.world.refCount ref }
    { session with hosts := session.hosts.put name slot }
  match old with
  | some slot => modifyWorld (·.letGo slot.ref)
  | none => return ()

/-- Writes a host object out and puts it into a slot, or lets go of it if there is no name for one. -/
def showAndKeep (name : Option String) (ref : Ref) : SessionM Form := do
  match name with
  | some name =>
    keepHost name ref
    return (← get).formOf ref
  | none =>
    let form := (← get).formOf ref
    modifyWorld (·.release [ref])
    return form

/-- The session after a slot for a native object has taken over one more reference. -/
def owning (session : Session) (name : String) : Session :=
  match session.objects.get? name with
  | some slot =>
    let slot := { slot with owned := slot.owned + 1, hOwned := Nat.succ_pos _ }
    { session with objects := session.objects.put name slot }
  | none => session

/-- The session after a slot for a native object has given up a reference. The slot is gone with the
last one. -/
def disowned (session : Session) (name : String) : Session :=
  match session.objects.get? name with
  | some slot =>
    if hLast : slot.owned ≤ 1 then
      { session with
        objects := session.objects.erase name
        released := session.released.put name slot.address }
    else
      let slot := { slot with owned := slot.owned - 1, hOwned := by omega }
      { session with objects := session.objects.put name slot }
  | none => session

/-- Puts a native object into a slot, which takes over one reference. -/
def keepObject (name : String) (address : Nat) : SessionM Unit := do
  let old := (← get).objects.get? name
  modify fun session =>
    { session with objects := session.objects.put name { address, owned := 1, hOwned := Nat.one_pos } }
  match old with
  | some slot => modifyWorld fun world => Nat.repeat (·.releaseNative slot.address) slot.owned world
  | none => return ()

/-- Puts a native value into a slot, which takes over the reference it owns, or gives it up if there
is no name for a slot. -/
def keepValue (name : Option String) (value : NativeValue) : SessionM Unit := do
  match name with
  | some name =>
    let old := (← get).values.get? name
    modify fun session => { session with values := session.values.put name value }
    match old with
    | some old => modifyWorld old.drop
    | none => return ()
  | none => modifyWorld value.drop

def showAndKeepValue (name : Option String) (value : NativeValue) : SessionM NativeForm := do
  let form := (← get).nativeFormOf value
  keepValue name value
  return form

def backing (name : String) : SessionM Ref := do
  let slot ← content (·.objects) name
  match (← get).world.native.backing? slot.address with
  | some backing => return backing
  | none => reject .notForeignSet

end Session

end HeapBridge
