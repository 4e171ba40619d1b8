import HeapBridge.Proofs.Ownership.Sessions
/-!
What commands do. Every command, whatever comes of it, is made of moves that leave nothing in flight: what
is owned afterwards is owned by slots and handles. What a command may do on demand, that is which wrappers
it may register and which handles it may make, depends on the session it runs in.
-/
namespace HeapBridge

open Host (HostM Ref)
open Session
open Estate

variable {α : Type} {may : Deed → Prop} {others taken : Estate} {session : Session}

def PointerLiteral.slotName : PointerLiteral → String
  | .native slot | .host slot => slot
  | .null | .number _ => ""

def Session.written? (session : Session) : PointerLiteral → Option Pointer
  | .null => some .null
  | .number n => some (.ofNumber n)
  | .native slot => (session.objects.get? slot).map fun slot => .native slot.address
  | .host slot => (session.hosts.get? slot).map fun slot => .host slot.ref

/-- The pointer that a literal describes. The address of an object that is there describes the object. -/
def Session.pointerOf? (session : Session) (literal : PointerLiteral) : Option Pointer :=
  (session.written? literal).map session.world.resolve

def Session.Converts (session : Session) (typeId : String) (literal : PointerLiteral)
    (deed : Deed) : Prop :=
  ∃ pointer, session.pointerOf? literal = some pointer ∧
    session.world.registry.Converts typeId pointer deed

def ToHost.isHandle : ToHost → Bool
  | .handle _ _ _ => true
  | _ => false

/-- What dealing with the iteration in a slot does on demand. -/
def Session.Advances (session : Session) (name : Option String) (deed : Deed) : Prop :=
  ∃ iteration, name.bind session.iterations.get? = some iteration ∧
    deed = .cursor iteration.number

def SetCommand.May (session : Session) : SetCommand → Deed → Prop
  | .collect _, deed => ∃ number, session.world.cursors.size ≤ number ∧ deed = .cursor number
  | .iterate _ name, deed | .cursor _ name, deed | .next name, deed
  | .dropIteration name, deed => session.Advances (some name) deed
  | _, _ => False

def WrapperCommand.May (session : Session) : WrapperCommand → Deed → Prop
  | .register typeId name _ inward, deed => ∃ outward : ToHost, outward.isHandle = false ∧
      deed = .registration { typeId, name, toHost := outward, fromHost := inward }
  | .registerBorrowing typeId name, deed => deed = .registration (.borrowing typeId name)
  | .registerOwning typeId name discipline, deed =>
      deed = .registration (.owning typeId name discipline)
  | .registerFramework typeId, deed => deed = .registration (.framework typeId)
  | .installBuiltins, deed =>
      deed = .builtins ∨ ∃ wrapper ∈ builtinWrappers, deed = .registration wrapper
  | .toHost typeId pointer _, deed => session.Converts typeId pointer deed
  | .toHostFor signature pointer _, deed => ∃ typeId,
      TypeEncoding.identifier? signature = some typeId ∧ session.Converts typeId pointer deed
  | .makeHandle typeId typeName pointer ownership _, deed => ∃ found,
      session.pointerOf? pointer = some found ∧
        deed = .handle { typeId, typeName, pointer := found, ownership }
  | .poison _, deed => deed = .poison
  | _, _ => False

/-- What a call of an exported function does on demand. -/
def ExportCommand.May (session : Session) : ExportCommand → Deed → Prop
  | .init, deed => deed = .builtins ∨ ∃ wrapper ∈ builtinWrappers, deed = .registration wrapper
  | .register typeId name outward inward, deed => ∃ typeIdText nameText toHost fromHost,
      readText typeId = .ok typeIdText ∧ readText name = .ok nameText ∧ outward = some toHost ∧
        inward = some fromHost ∧ deed = .registration ⟨typeIdText, nameText, toHost, fromHost⟩
  | .registerCounted typeId name, deed => ∃ typeIdText nameText,
      readText typeId = .ok typeIdText ∧ readText name = .ok nameText ∧
        deed = .registration (.owning typeIdText nameText .nativeObject)
  | .registerFramework typeId, deed => ∃ text,
      readText typeId = .ok text ∧ deed = .registration (.framework text)
  | .toHost typeId pointer _, deed => ∃ text,
      readText typeId = .ok text ∧ session.Converts text pointer deed
  | .setIterate name, deed | .iteratorNext name _, deed | .iteratorFree name, deed =>
      session.Advances name deed
  | _, _ => False

def Command.May (session : Session) : Command → Deed → Prop
  | .set command, deed => command.May session deed
  | .wrapper command, deed => command.May session deed
  | .exported call, deed => call.command.May session deed
  | _, _ => False

/-- Whether a new native object gets a name. An object that nobody can name is never released. -/
def ExportCommand.isNamed : ExportCommand → Bool
  | .setNew slot value => slot.isSome || value.isNone
  | .setInit slot _ value => slot.isSome || value.isNone
  | _ => true

def Command.isNamed : Command → Bool
  | .exported call => call.command.isNamed
  | _ => true

namespace Session

/-- The slot that a literal names keeps the object of the pointer. -/
theorem keptIn_written? {literal : PointerLiteral} {pointer : Pointer}
    (hWritten : session.written? literal = some pointer) (others : Estate) :
    pointer.KeptIn ⟨(others + session.estate).1, session.world⟩ := by
  rintro address rfl
  cases literal with
  | native name =>
    obtain ⟨slot, hSlot, hAddress⟩ := Option.map_eq_some_iff.mp hWritten
    obtain rfl := Pointer.native.inj hAddress
    exact keeps_of_mem (reference_mem hSlot) _
  | number n =>
    simp only [written?, Pointer.ofNumber, Option.some.injEq] at hWritten
    split at hWritten <;> cases hWritten
  | host name =>
    obtain ⟨_, _, hHost⟩ := Option.map_eq_some_iff.mp hWritten
    cases hHost
  | null => cases hWritten

theorem pointerOf?_of_written? {literal : PointerLiteral} {pointer : Pointer}
    (hWritten : session.written? literal = some pointer) :
    session.pointerOf? literal = some (session.world.resolve pointer) := by
  rw [pointerOf?, hWritten, Option.map_some]

/-- Describing a pointer changes nothing, and fails at a slot that is not there. -/
theorem run_makePointer (literal : PointerLiteral) (session : Session) :
    (makePointer literal).run.run session =
      (match session.written? literal with
        | some pointer => .ok pointer
        | none => .error (.rejected (.noSlot literal.slotName)), session) := by
  cases literal with
  | null => rfl
  | number n => rfl
  | native name =>
    rw [makePointer, run_bind, run_content, written?]
    cases session.objects.get? name <;> rfl
  | host name =>
    rw [makePointer, run_bind, hostOf, run_bind, run_content, written?]
    cases session.hosts.get? name <;> rfl

/-- What follows a pointer argument runs in the same session, with a pointer to what is described. -/
theorem transfers_makePointer {literal : PointerLiteral} {next : Pointer → SessionM α}
    {given : α → Estate}
    (hNext : ∀ pointer, session.pointerOf? literal = some (session.world.resolve pointer) →
      pointer.KeptIn ⟨(others + session.estate).1, session.world⟩ →
      Transfers may others session 0 (next pointer) given) :
    Transfers may others session 0 (makePointer literal >>= next) given := by
  have hFound (pointer : Pointer) (hWritten : session.written? literal = some pointer) :
      Transfers may others session 0 (next pointer) given :=
    hNext pointer (pointerOf?_of_written? hWritten) (keptIn_written? hWritten others)
  refine .bind (neutral_makePointer literal may others session) fun pointer middle hRun => ?_
  rw [run_makePointer] at hRun
  split at hRun
  next found hWritten =>
    cases hRun
    exact hFound _ hWritten
  next => cases hRun

theorem neutral_reply (answer : Answer) : Neutral (reply answer) := .get fun _ => .pure

end Session

/-- Commands on host objects leave alone what is owned outside. -/
theorem HostCommand.neutral_run (command : HostCommand) : Neutral command.run := by
  cases command with
  | bind slot value =>
    exact .bind (neutral_build value) fun ref => .bind (neutral_showAndKeep _ ref) fun _ => .pure
  | «show» slot => exact .bind (neutral_hostOf slot) fun _ => .get fun _ => .pure
  | drop slot => exact .bind (neutral_dropHost slot) fun _ => .pure
  | references slot => exact .bind (neutral_content _ slot) fun _ => .get fun _ => .pure
  | identical left right =>
    exact .bind (neutral_hostOf left) fun _ => .bind (neutral_hostOf right) fun _ => .pure
  | equal left right =>
    exact .bind (neutral_hostOf left) fun _ => .bind (neutral_hostOf right) fun _ =>
      .bind (neutral_host _) fun _ => .pure
  | sameHash left right =>
    exact .bind (neutral_hostOf left) fun _ => .bind (neutral_hostOf right) fun _ =>
      .bind (neutral_host _) fun _ => .bind (neutral_host _) fun _ => .pure
  | call slot method arguments result =>
    exact .bind (neutral_hostOf slot) fun _ => .bind (neutral_buildEach arguments) fun _ =>
      .bind (neutral_withArguments _ (neutral_host _)) fun value =>
        .bind (neutral_showAndKeep result value) fun _ => .pure
  | getAttribute slot name =>
    exact .bind (neutral_hostOf slot) fun ref => neutral_attributeOf ref name
  | setAttribute slot name value =>
    exact .bind (neutral_hostOf slot) fun _ => .bind (neutral_build value) fun _ =>
      .bind (neutral_host _) fun _ => .pure
  | describe slot =>
    exact .bind (neutral_hostOf slot) fun _ => .bind (neutral_host _) fun _ => .get fun _ => .pure

/-- So do commands on native values: what is made is kept in a slot or given up. -/
theorem ValueCommand.neutral_run (command : ValueCommand) : Neutral command.run := by
  refine fun may others session => ?_
  cases command with
  | bind slot value =>
    exact .bind (transfers_makeValue value) fun made _ _ =>
      .bind (transfers_showAndKeepValue slot made) fun _ _ _ => .pure rfl
  | fromHost slot value =>
    exact .bind (neutral_build value may others session) fun ref _ _ =>
      .bind (transfers_bridge (BridgeM.transfers_keeping (NativeValue.transfers_fromHost ref)))
        fun made _ _ => .bind (transfers_showAndKeepValue slot made) fun _ _ _ => .pure rfl
  | toHost slot result =>
    have hRun : Neutral (ValueCommand.run (.toHost slot result)) :=
      .bind (neutral_content _ slot) fun value =>
        .bind (neutral_bridge value.neutral_toHost) fun ref =>
          .bind (neutral_showAndKeep result ref) fun _ => .pure
    exact hRun may others session
  | scalars slot => exact .bind (neutral_content _ slot may others session) fun _ _ _ => .pure rfl
  | proxy slot =>
    refine .bind (neutral_content _ slot may others session) fun value _ _ => ?_
    cases value with
    | set address => exact .get (.pure rfl)
    | _ => exact .pure rfl
  | drop slot => exact .bind (neutral_dropValue slot may others session) fun _ _ _ => .pure rfl

/-- Commands on sets move iterators on demand, and leave alone what is owned otherwise. -/
theorem SetCommand.transfers_run (command : SetCommand) :
    Transfers (command.May session) others session 0 command.run fun _ => 0 := by
  cases command with
  | create slot value =>
    exact .bind (transfers_buildOwned value) fun ref _ _ =>
      .bind (transfers_bridge (ForeignSet.transfers_create ref)) fun address _ _ =>
        .bind (transfers_keepObject slot address) fun _ _ _ => .pure rfl
  | initialise slot storage value =>
    exact .bind (transfers_buildOwned value) fun ref _ _ =>
      .bind (transfers_chosenStorage storage) fun chosen _ _ =>
        .bind (transfers_bridge (ForeignSet.transfers_initialise chosen ref)) fun address _ _ =>
          .bind (transfers_keepObject slot address) fun _ _ _ => .pure rfl
  | contains slot item =>
    exact .via (fun _ => 0) (transfers_withItem fun backing value _ _ =>
      ForeignSet.neutral_contains backing value _ _ _) fun _ _ _ => .pure rfl
  | add slot item =>
    exact .via (fun _ => 0) (transfers_withItem fun backing value _ _ =>
      ForeignSet.neutral_add backing value _ _ _) fun _ _ _ => .pure rfl
  | remove slot item =>
    exact .via (fun _ => 0) (transfers_withItem fun backing value _ _ =>
      ForeignSet.neutral_remove backing value _ _ _) fun _ _ _ => .pure rfl
  | removeAll slot =>
    exact .bind (neutral_backing slot _ others session) fun ref _ _ =>
      .bind (neutral_bridge (ForeignSet.neutral_removeAll ref) _ others _) fun _ _ _ => .pure rfl
  | count slot =>
    exact .bind (neutral_backing slot _ others session) fun ref _ _ =>
      .bind (neutral_bridge (ForeignSet.neutral_count ref) _ others _) fun _ _ _ => .pure rfl
  | member slot item result =>
    refine .bind (transfers_withItem fun backing value _ _ =>
      ForeignSet.transfers_member backing value) fun found _ _ => ?_
    cases found with
    | some value => exact .bind (transfers_showAndKeepValue result value) fun _ _ _ => .pure rfl
    | none => exact .pure rfl
  | anyElement slot result => exact neutral_someElement slot result _ others session
  | copy slot result =>
    exact .bind (neutral_backing slot _ others session) fun ref _ _ =>
      .bind (transfers_bridge (ForeignSet.transfers_mutableCopy ref)) fun address _ _ =>
        .bind (transfers_keepObject result address) fun _ _ _ => .pure rfl
  | hostValue slot result =>
    exact .bind (neutral_backing slot _ others session) fun ref _ _ =>
      .bind (neutral_showAndKeep result ref _ others _) fun _ _ _ => .pure rfl
  | collect slot =>
    exact transfers_backing fun ref =>
      .bind (transfers_allElements fun number hNew => ⟨number, hNew, rfl⟩) fun values _ _ =>
        .get (.bind (transfers_dropValues values) fun _ _ _ => .get (.pure rfl))
  | iterate slot name | cursor slot name =>
    exact transfers_startIteration fun old hOld => ⟨old, hOld, rfl⟩
  | next name => exact transfers_advance fun found hFound => ⟨found, hFound, rfl⟩
  | dropIteration name =>
    exact .bind (transfers_dropIteration fun old hOld => ⟨old, hOld, rfl⟩) fun _ _ _ => .pure rfl

/-- Commands on native objects, but for the one that clears the record of destroyed payloads and for those that
make proxies as if they were objects of a class of their own. -/
theorem ObjectCommand.neutral_run {command : ObjectCommand} (hCommand : command ≠ .destroyed)
    (hProper : ∀ slot, command ≠ .create slot .foreignSet) :
    Neutral command.run := by
  refine fun may others session => ?_
  cases command with
  | create slot nativeClass =>
    exact .bind (transfers_reserve nativeClass) fun address _ _ =>
      .bind (transfers_installAs slot address fun hSame =>
        hProper slot (by cases nativeClass <;> first | rfl | cases hSame)) fun _ _ _ => .pure rfl
  | destroyed => exact (hCommand rfl).elim
  | retainAs slot other =>
    refine transfers_content fun content hContent =>
      .via (fun _ => oneReference content.address) (transfers_modifyWorld ?_) fun _ _ _ =>
        .bind (transfers_keepObject other content.address) fun _ _ _ => .pure rfl
    rw [zero_add]
    exact (Step.retain content.address (keeps_of_mem (reference_mem hContent) _) rfl).toSteps
  | info slot =>
    cases slot with
    | none => exact .pure rfl
    | some slot => exact transfers_content fun _ _ => .get (.pure rfl)
  | reference slot nativeClass other =>
    cases slot with
    | none => exact .pure rfl
    | some slot =>
      refine transfers_content fun content hContent => .get ?_
      split
      · exact .bind (transfers_referTo hContent nativeClass other) fun _ _ _ => .pure rfl
      · exact .pure rfl
  | reserve slot nativeClass =>
    exact .bind (transfers_reserve nativeClass) fun address _ _ =>
      .bind (transfers_putStorage slot address nativeClass) fun _ _ _ => .pure rfl
  | install storage slot =>
    refine .bind (transfers_takeStorage storage .tracked) fun taken _ _ => ?_
    cases taken with
    | some address => exact .bind (transfers_installAs slot address nofun) fun _ _ _ => .pure rfl
    | none => exact .throw
  | discard storage =>
    refine .get ?_
    split
    next address nativeClass hStorage =>
      have hErase := holdings_eraseStorage session storage
      rw [hStorage, Option.elim_some] at hErase
      refine .via (fun _ => storageEstate (some address))
        (transfers_reassign rfl (hErase.trans (zero_add _).symm) rfl) fun _ _ _ =>
          .via (fun _ => 0) (transfers_modifyWorld ?_) fun _ _ _ => .pure rfl
      rw [zero_add]
      exact (Step.discard address rfl).toSteps
    next => exact .pure rfl

theorem Session.transfers_registerWrapper {wrapper : PointerWrapper}
    (hMay : may (.registration wrapper)) :
    Transfers may others session 0 (registerWrapper wrapper) fun _ => 0 :=
  .bind (transfers_bridge (transfers_register hMay)) fun _ _ _ => .pure rfl

/-- Only wrappers of the bridge's own make handles on demand of callers. -/
theorem Session.isHandle_of_makeToHost {literal : ToHostLiteral} {converter : ToHost}
    {middle : Session} (hRun : (makeToHost literal).run.run session = (.ok converter, middle)) :
    converter.isHandle = false := by
  cases literal with
  | constant value =>
    rw [makeToHost, run_bind] at hRun
    split at hRun <;> cases hRun
    rfl
  | _ => cases hRun; rfl

/-- Commands on pointers register, make handles and poison on demand only. -/
theorem WrapperCommand.transfers_run (command : WrapperCommand) :
    Transfers (command.May session) others session 0 command.run fun _ => 0 := by
  cases command with
  | register typeId name outward inward =>
    exact .bind (neutral_makeToHost outward _ others session) fun converter _ hRun =>
      transfers_registerWrapper ⟨converter, isHandle_of_makeToHost hRun, rfl⟩
  | registerBorrowing typeId name => exact transfers_registerWrapper rfl
  | registerOwning typeId name discipline => exact transfers_registerWrapper rfl
  | registerFramework typeId => exact transfers_registerWrapper rfl
  | installBuiltins =>
    exact .bind (transfers_bridge (transfers_installBuiltins
      (fun wrapper hWrapper => .inr ⟨wrapper, hWrapper, rfl⟩) (.inl rfl))) fun _ _ _ => .pure rfl
  | has typeId => exact .get (.pure rfl)
  | describe signature => exact .get (.pure rfl)
  | typeIds =>
    refine .get ?_
    split
    · exact .pure rfl
    · exact .throw
  | toHost typeId pointer result =>
    exact transfers_makePointer fun found hFound hKept =>
      .bind (transfers_bridge (HeapBridge.transfers_toHost
        (fun _ hConverts => ⟨_, hFound, hConverts⟩) hKept)) fun ref _ _ =>
        .bind (transfers_showOwned result ref) fun _ _ _ => .pure rfl
  | toHostFor signature pointer result =>
    exact transfers_makePointer fun found hFound hKept =>
      .bind (transfers_bridge (HeapBridge.transfers_toHostFor
        (fun _ typeId hTypeId hConverts => ⟨typeId, hTypeId, _, hFound, hConverts⟩) hKept))
        fun ref _ _ => .bind (transfers_showOwned result ref) fun _ _ _ => .pure rfl
  | fromHost typeId value =>
    exact neutral_convert value (HeapBridge.neutral_fromHost typeId) _ others session
  | fromHostFor signature value =>
    exact neutral_convert value (HeapBridge.neutral_fromHostFor signature) _ others session
  | externalCalls =>
    exact .get (.via (fun _ => 0) (.steps .refl) fun _ _ _ => .pure rfl)
  | makeHandle typeId typeName pointer ownership result =>
    exact transfers_makePointer fun found hFound hKept =>
      .bind (transfers_bridge (transfers_makeHandle ⟨_, hFound, rfl⟩ hKept)) fun ref _ _ =>
        .bind (neutral_showAndKeep result ref _ others _) fun _ _ _ => .pure rfl
  | extractPointer value typeId =>
    exact .bind (neutral_build value _ others session) fun ref _ _ =>
      .bind (neutral_host _ _ others _) fun _ _ _ => .get (.pure rfl)
  | poison typeId =>
    exact .bind (transfers_bridge (transfers_dieRegistering rfl)) fun _ _ _ => .pure rfl

namespace Session

/-- The argument of a call is kept while the call runs, and is let go of in any case. -/
theorem neutral_withHostArgument {action : Option Ref → SessionM α} (literal : Option Host.Literal)
    (hAction : ∀ argument, Neutral (action argument)) :
    Neutral (withHostArgument literal action) := by
  cases literal with
  | none => exact hAction none
  | some literal =>
    refine fun may others session => .bind (neutral_build literal may others session) fun ref _ _ =>
      .bind (transfers_hold ref) fun _ middle _ => ?_
    refine (hAction (some ref) may _ middle).tryFinally fun result after => ?_
    simp only [ledger_session, estate_world, add_assoc]
    exact World.steps_letGo ref after.world

/-- A host argument comes with its reference. -/
theorem transfers_ownedArgument (literal : Option Host.Literal) :
    Transfers may others session 0 (ownedArgument literal) fun ref => ofHost (refClaims ref) := by
  cases literal with
  | none => exact .pure rfl
  | some literal =>
    rw [ownedArgument, map_eq_pure_bind]
    exact .bind (transfers_buildOwned literal) fun _ _ _ => .pure rfl

/-- What follows an iterator argument runs in the same session, with the iterator in the slot. -/
theorem transfers_iteratorArgument {name : Option String} {next : Option Nat → SessionM α}
    {given : α → Estate}
    (hNext : ∀ iterator, (∀ number, iterator = some number →
        session.Advances name (.cursor number)) →
      Transfers may others session 0 (next iterator) given) :
    Transfers may others session 0 (iteratorArgument name >>= next) given := by
  unfold iteratorArgument
  rw [bind_assoc]
  refine .get ?_
  split
  next iteration hFound =>
    exact hNext _ fun number hNumber => ⟨_, hFound, congrArg Deed.cursor (Option.some.inj hNumber).symm⟩
  next => exact hNext _ nofun

theorem neutral_slotName (name : Option String) : Neutral (slotName name) := by
  cases name with
  | none => exact .throw
  | some name => exact .pure

theorem run_slotName {name : Option String} {found : String} {middle : Session}
    (hRun : (slotName name).run.run session = (.ok found, middle)) :
    name = some found ∧ middle = session := by
  cases name <;> cases hRun
  exact ⟨rfl, rfl⟩

/-- A new object is kept in its slot. -/
theorem transfers_replyObject {slot : Option String} {address : Option Nat}
    (hNamed : slot.isSome = true ∨ address = none) :
    Transfers may others session (objectEstate address) (replyObject slot address)
      fun _ => 0 := by
  cases address with
  | none => exact neutral_reply _ may others session
  | some address =>
    obtain ⟨name, rfl⟩ := Option.isSome_iff_exists.mp (hNamed.resolve_right nofun)
    exact .via (fun _ => oneReference address) (.pure rfl) fun name _ _ =>
      .bind (transfers_keepObject name address) fun _ _ _ => neutral_reply _ may others _

theorem neutral_replyHost (result : Option String) (ref : Option Ref) :
    Neutral (replyHost result ref) := by
  cases ref with
  | some ref => exact .bind (neutral_showAndKeep result ref) fun form => neutral_reply _
  | none => exact neutral_reply _

theorem neutral_onItem {function : Option Ref → Export.ExportM Int} (item : Option Host.Literal)
    (hFunction : ∀ argument, Quiet (function argument)) : Neutral (onItem item function) :=
  neutral_withHostArgument item fun argument =>
    .bind (neutral_exported (hFunction argument)) fun _ => neutral_reply _

theorem transfers_storageArgument (slot : Option String) :
    Transfers may others session taken (storageArgument slot)
      fun storage => storageEstate storage + taken := by
  cases slot with
  | none => exact .pure (zero_add taken).symm
  | some slot => exact transfers_takeStorage slot .foreignSet

theorem run_exported (function : Export.ExportM α) (session : Session) :
    (exported function).run.run session =
      (.ok (function.run session.world).1,
        { session with world := (function.run session.world).2 }) := rfl

/-- A new iterator replaces the one in the slot, which is given up. -/
theorem transfers_iterateExported {object : Pointer} {iteration : Option String}
    (hMay : ∀ deed, session.Advances iteration deed → may deed) :
    Transfers may others session 0 (iterateExported object iteration) fun _ => 0 := by
  refine .bind (neutral_exported (Export.quiet_setIterate thread object) may others session)
    fun number middle hRun => ?_
  have hIterations : middle.iterations = session.iterations := by
    rw [run_exported] at hRun
    rw [← (Prod.mk.inj hRun).2]
  cases number with
  | some number =>
    refine .get (.bind (neutral_slotName iteration may others middle) fun name after hName => ?_)
    obtain ⟨rfl, rfl⟩ := run_slotName hName
    refine .bind (transfers_keepIteration _ fun old hOld => ?_) fun _ _ _ =>
      neutral_reply _ may others _
    exact hMay _ ⟨old, hIterations ▸ hOld, rfl⟩
  | none => exact neutral_reply _ may others _

/-- After the call of an exported step the element is let go. -/
theorem transfers_stepped (outcome : Int × Option Ref) :
    Transfers may others session (ofHost (refClaims outcome.2)) (do
      modifyWorld fun world => outcome.2.elim world fun ref => world.letGo ref
      reply (.status outcome.1)) fun _ => 0 := by
  refine .via (fun _ => 0) (transfers_modifyWorld ?_) fun _ _ _ => neutral_reply _ may others _
  rw [zero_add]
  cases outcome.2 with
  | some ref => exact World.steps_letGo ref session.world
  | none => exact (zero_add (others + session.estate)).symm ▸ .refl

theorem neutral_convertExported (typeId : TextArgument) (output : Bool) (value : Option Ref) :
    Neutral (convertExported typeId output value) :=
  .bind (neutral_exported (Export.quiet_fromHost thread typeId value output)) fun _ =>
    .get fun _ => neutral_reply _

/-- Looking up the object of a call changes nothing. -/
theorem run_objectArgument {slot : Option String} {object : Pointer} {middle : Session}
    (hRun : (objectArgument slot).run.run session = (.ok object, middle)) :
    middle = session ∧ session.Holds slot object := by
  cases slot with
  | none =>
    cases hRun
    exact ⟨rfl, rfl⟩
  | some name =>
    rw [objectArgument, run_bind, run_content] at hRun
    cases hContent : session.objects.get? name with
    | none =>
      rw [hContent] at hRun
      cases hRun
    | some content =>
      rw [hContent] at hRun
      cases hRun
      exact ⟨rfl, content, hContent, rfl⟩

/-- The object of a call is kept by the slot that it was found in. -/
theorem Holds.keptIn {slot : Option String} {object : Pointer} (hHolds : session.Holds slot object)
    (others : Estate) : object.KeptIn ⟨(others + session.estate).1, session.world⟩ := by
  rintro address rfl
  cases slot with
  | none => cases hHolds
  | some name =>
    obtain ⟨content, hContent, hAddress⟩ := hHolds
    obtain rfl := Pointer.native.inj hAddress
    exact keeps_of_mem (reference_mem hContent) _

theorem holds_of_world {slot : Option String} {object : Pointer} (world : World)
    (hHolds : session.Holds slot object) :
    ({ session with world } : Session).Holds slot object := hHolds

/-- A call that releases what the slot of its argument gives up for it. -/
theorem transfers_releasing {function : Export.ExportM α} {released : α → Option String}
    {freed : Estate} (answer : Answer)
    (hEstate : session.estate = freed +
      ((released (function.run session.world).1).elim session session.disowned).estate)
    (hFunction : ∀ owners, Hands may owners session.world freed function fun _ => 0) :
    Transfers may others session 0 (do
      let result ← exported function
      disownArgument (released result)
      reply answer) fun _ => 0 := by
  let slot := released (function.run session.world).1
  let after := (function.run session.world).2
  have hSession : slot.elim ({ session with world := after } : Session)
      ({ session with world := after } : Session).disowned =
        { slot.elim session session.disowned with world := after } := by
    cases slot with
    | none => rfl
    | some name => exact disowned_with_world session name after
  have hSteps := hFunction (others + (slot.elim session session.disowned).estate)
  unfold Hands at hSteps
  rw [ledger_world, ledger_world, add_left_comm, ← hEstate] at hSteps
  change Steps may (Holder.ledger (0 + others) session)
    (Holder.ledger (0 + others) (slot.elim ({ session with world := after } : Session)
      ({ session with world := after } : Session).disowned))
  rw [hSession]
  simpa only [ledger_session, estate_world, zero_add] using hSteps

end Session

/-- Calls of exported functions. The native object of a call is in the slot it was looked up in. -/
theorem ExportCommand.transfers_runOn {command : ExportCommand} {slot : Option String}
    {object : Pointer} (hHolds : session.Holds slot object) (hNamed : command.isNamed = true) :
    Transfers (command.May session) others session 0 (command.runOn slot object) fun _ => 0 := by
  cases command with
  | init =>
    exact .bind (transfers_exported (Export.hands_init thread
      (fun wrapper hWrapper => .inr ⟨wrapper, hWrapper, rfl⟩) (.inl rfl))) fun _ _ _ =>
        neutral_reply _ _ others _
  | lastError => exact .get (.pure rfl)
  | clearLastError =>
    refine .via (fun _ => 0) (transfers_modifyWorld ?_) fun _ _ _ => neutral_reply _ _ others _
    exact (zero_add (others + session.estate)).symm ▸ World.steps_lastErrors _ _
  | setNew name value =>
    refine .bind (transfers_ownedArgument value) fun owned middle hOwned =>
      .bind (transfers_exported (Export.hands_setNew thread owned)) fun address _ hRun =>
        transfers_replyObject ?_
    rcases Bool.or_eq_true_iff.mp hNamed with hName | hNone
    · exact .inl hName
    · rw [Option.isNone_iff_eq_none.mp hNone] at hOwned
      cases hOwned
      cases hRun
      exact .inr rfl
  | setAllocate name =>
    refine .bind (transfers_exported (Export.hands_setAllocate thread)) fun storage _ _ => ?_
    cases storage with
    | some address =>
      exact .bind (transfers_putStorage name address .foreignSet) fun _ _ _ =>
        neutral_reply _ _ others _
    | none => exact neutral_reply _ _ others _
  | setInit name storage value =>
    refine .bind (transfers_ownedArgument value) fun owned middle hOwned =>
      .bind (transfers_storageArgument storage) fun taken _ _ =>
        .bind (transfers_exported (Export.hands_setInit thread taken owned)) fun address _ hRun =>
          transfers_replyObject ?_
    rcases Bool.or_eq_true_iff.mp hNamed with hName | hNone
    · exact .inl hName
    · rw [Option.isNone_iff_eq_none.mp hNone] at hOwned
      cases hOwned
      cases hRun
      exact .inr rfl
  | setHostObject result =>
    exact .bind (neutral_exported (Export.quiet_setHostObject thread object) _ others session)
      fun ref _ _ => neutral_replyHost result ref _ others _
  | isForeignSet =>
    exact .bind (neutral_exported (Export.quiet_isForeignSet thread object) _ others session)
      fun _ _ _ => neutral_reply _ _ others _
  | setContains item =>
    exact neutral_onItem item (Export.quiet_setContains thread object) _ others session
  | setAdd item => exact neutral_onItem item (Export.quiet_setAdd thread object) _ others session
  | setRemove item =>
    exact neutral_onItem item (Export.quiet_setRemove thread object) _ others session
  | setCount =>
    exact .bind (neutral_exported (Export.quiet_setCount thread object) _ others session)
      fun _ _ _ => neutral_reply _ _ others _
  | setIterate iteration => exact transfers_iterateExported fun _ hAdvances => hAdvances
  | iteratorNext iteration output =>
    exact transfers_iteratorArgument fun iterator hIterator =>
      .bind (transfers_exported (Export.hands_iteratorNext hIterator)) fun outcome _ _ =>
        transfers_stepped outcome
  | iteratorFree iteration =>
    exact transfers_iteratorArgument fun iterator hIterator =>
      .bind (transfers_exported (Export.hands_iteratorFree hIterator)) fun _ _ _ =>
        .bind (neutral_modifyIterations _ others _) fun _ _ _ => neutral_reply _ _ others _
  | setRelease =>
    refine transfers_releasing .nothing ?_ fun owners => Export.hands_setRelease thread object
    split
    · exact estate_disownedArgument hHolds
    · exact (zero_add _).symm
  | register typeId name outward inward =>
    exact .bind (transfers_exported (Export.hands_register
      fun typeIdText nameText toHost fromHost hTypeId hName hOutward hInward =>
        ⟨typeIdText, nameText, toHost, fromHost, hTypeId, hName, hOutward, hInward, rfl⟩))
      fun _ _ _ => neutral_reply _ _ others _
  | registerCounted typeId name =>
    exact .bind (transfers_exported (Export.hands_registerCounted
      fun typeIdText nameText hTypeId hName => ⟨typeIdText, nameText, hTypeId, hName, rfl⟩))
      fun _ _ _ => neutral_reply _ _ others _
  | registerFramework typeId =>
    exact .bind (transfers_exported (Export.hands_registerFramework
      fun text hText => ⟨text, hText, rfl⟩)) fun _ _ _ => neutral_reply _ _ others _
  | hasWrapper typeId =>
    exact .bind (neutral_exported (Export.quiet_hasWrapper thread typeId) _ others session)
      fun _ _ _ => neutral_reply _ _ others _
  | describe signature =>
    exact .bind (neutral_exported (Export.quiet_describe thread signature) _ others session)
      fun _ _ _ => neutral_reply _ _ others _
  | toHost typeId pointer result =>
    refine transfers_makePointer fun found hFound hKept =>
      .bind (transfers_exported (Export.hands_toHost
        (fun text hText _ hConverts => ⟨text, hText, _, hFound, hConverts⟩) hKept))
        fun ref _ _ => ?_
    cases ref with
    | some ref =>
      exact .bind (transfers_showOwned result ref) fun _ _ _ => neutral_reply _ _ others _
    | none => exact neutral_reply _ _ others _
  | fromHost typeId value output =>
    exact neutral_withHostArgument value (neutral_convertExported typeId output) _ others session
  | objectNew name =>
    exact .bind (transfers_exported Export.hands_objectNew) fun address _ _ =>
      transfers_replyObject (.inl rfl)
  | objectRetain =>
    refine .bind (transfers_exported (Export.hands_objectRetain (hHolds.keptIn others)))
      fun answer _ hRun => ?_
    rw [run_exported] at hRun
    cases hRun
    exact .bind (transfers_ownArgument (holds_of_world _ hHolds)) fun _ _ _ =>
      neutral_reply _ _ others _
  | objectRelease =>
    exact transfers_releasing .nothing (estate_disownedArgument hHolds)
      fun _ => Export.hands_objectRelease object
  | objectRetainCount =>
    exact .bind (neutral_exported (Export.quiet_objectRetainCount object) _ others session)
      fun _ _ _ => neutral_reply _ _ others _
  | unknown => exact .throw

end HeapBridge
