import HeapBridge.Proofs.Handles.Pairing
/-!
Where the pointers come from that host code gives back. Handles cannot be made, changed or relabelled by
host code, and a type keeps its converters; so a pointer that comes back for a type of handles was passed to
the host for that type before. The main statement adds that a native object is still alive then, since the
handle owns a reference to it.
-/
namespace HeapBridge

open Host (Body Heap Object Ref)

variable {may : Deed → Prop}

namespace Registry

def All (property : PointerWrapper → Prop) (registry : Registry) : Prop :=
  ∀ wrapper ∈ registry.wrappers, property wrapper

theorem lookup_eq_ok_iff {registry : Registry} {typeId : String} {wrapper : PointerWrapper} :
    registry.lookup typeId = .ok wrapper ↔
      registry.poisoned = false ∧ registry.find? typeId = some wrapper := by
  unfold lookup
  cases registry.poisoned <;> cases registry.find? typeId <;> simp

theorem mem_of_lookup {registry : Registry} {typeId : String} {wrapper : PointerWrapper}
    (hLookup : registry.lookup typeId = .ok wrapper) :
    wrapper ∈ registry.wrappers ∧ wrapper.typeId = typeId := by
  have hFind := (lookup_eq_ok_iff.mp hLookup).2
  exact ⟨List.mem_of_find?_eq_some hFind, by simpa using List.find?_some hFind⟩

/-- What a table answers at two times is the same, if it only grew in between. -/
theorem lookup_unique {before after : Registry} {typeId : String} {wrapper other : PointerWrapper}
    (hGrown : before.wrappers <+: after.wrappers) (hBefore : before.lookup typeId = .ok wrapper)
    (hAfter : after.lookup typeId = .ok other) : wrapper = other := by
  obtain ⟨more, hMore⟩ := hGrown
  have hOther := (lookup_eq_ok_iff.mp hAfter).2
  have hFind : before.wrappers.find? (fun entry => entry.typeId = typeId) = some wrapper :=
    (lookup_eq_ok_iff.mp hBefore).2
  rw [find?, ← hMore, List.find?_append, hFind] at hOther
  exact Option.some.inj hOther

end Registry

/-- The table of wrappers grows by what is registered. -/
theorem Move.wrappers {start finish : Account} (move : Move may start finish) :
    finish.world.registry.wrappers = start.world.registry.wrappers ∨
      ∃ wrapper, may (.registration wrapper) ∧
        finish.world.registry.wrappers = start.world.registry.wrappers ++ [wrapper] := by
  cases move with
  | host change => exact .inl (congrArg Registry.wrappers change.cursors_registry.2)
  | drop address _ => exact .inl (congrArg Registry.wrappers (World.aside_dropNative address _).2.2)
  | register wrapper hMay hInsert =>
    exact .inr ⟨wrapper, hMay, congrArg Registry.wrappers (Registry.insert_eq_ok hInsert)⟩
  | _ => exact .inl rfl

/-- Wrappers are added at the end of the table, and each on demand. -/
theorem Moves.wrappers {start finish : Account} (moves : Moves may start finish) :
    ∃ more, finish.world.registry.wrappers = start.world.registry.wrappers ++ more ∧
      ∀ wrapper ∈ more, may (.registration wrapper) := by
  induction moves with
  | refl => exact ⟨[], (List.append_nil _).symm, nofun⟩
  | step _ last ih =>
    obtain ⟨more, hMore, hMay⟩ := ih
    rcases last.wrappers with hSame | ⟨wrapper, hWrapper, hAdded⟩
    · exact ⟨more, hSame.trans hMore, hMay⟩
    · refine ⟨more ++ [wrapper], by rw [hAdded, hMore, List.append_assoc], fun other hOther => ?_⟩
      rcases List.mem_append.mp hOther with hOld | hNew
      · exact hMay other hOld
      · rwa [List.mem_singleton.mp hNew]

/-- What is accepted for a type, and is not NULL, is the pointer of a handle of the type. -/
theorem World.exists_handle?_of_accepted? {world : World} {typeId : String} {value : Ref}
    {pointer : Pointer} (hAccepted : world.accepted? typeId value = some pointer)
    (hNull : pointer ≠ .null) :
    ∃ address handle, value = .object address ∧ world.host.handle? address = some handle ∧
      handle.typeId = typeId ∧ handle.pointer = pointer := by
  unfold accepted? at hAccepted
  split at hAccepted
  next => exact (hNull (Option.some.inj hAccepted).symm).elim
  next =>
    cases hBody : world.host.body value with
    | handle handle =>
      rw [hBody, Body.pointerOf?] at hAccepted
      split at hAccepted
      next hType =>
        cases value with
        | atom value => cases value <;> cases hBody
        | object address =>
          refine ⟨address, handle, rfl, ?_, hType, Option.some.inj hAccepted⟩
          cases hObject : world.host.object? address with
          | some object =>
            rw [Heap.body, Heap.view_of_object? hObject] at hBody
            exact Heap.handle?_eq_some_iff.mpr ⟨object, hObject, hBody⟩
          | none =>
            rw [Heap.body, Heap.view, hObject] at hBody
            cases hBody
      next => cases hAccepted
    | _ =>
      rw [hBody] at hAccepted
      cases hAccepted

/-- Whether a command makes handles other than by converting pointers of types of handles: it makes one
by hand, or it registers a converter that does. -/
def Command.crafts : Command → Bool
  | .wrapper (.makeHandle ..) => true
  | .exported ⟨_, .register _ _ (some outward) _⟩ => outward.isHandle
  | _ => false

/-- Whether a wrapper makes handles of no type but its own. -/
def PointerWrapper.Sincere (wrapper : PointerWrapper) : Prop :=
  ∀ handleId name ownership, wrapper.toHost = .handle handleId name ownership →
    handleId = wrapper.typeId

theorem PointerWrapper.sincere_of_isHandle {wrapper : PointerWrapper}
    (hHandle : wrapper.toHost.isHandle = false) : wrapper.Sincere := by
  intro handleId name ownership hConverter
  rw [hConverter] at hHandle
  cases hHandle

theorem PointerWrapper.Registers.sincere {typeId name : String} {ownership : Option Discipline}
    {wrapper : PointerWrapper} (hRegisters : wrapper.Registers typeId name ownership) :
    wrapper.Sincere := by
  rw [hRegisters.eq]
  intro handleId found other hConverter
  exact (ToHost.handle.inj hConverter).1.symm

/-- The built-in wrappers make handles of their own types. -/
theorem sincere_builtinWrappers : ∀ wrapper ∈ builtinWrappers, wrapper.Sincere := by
  intro wrapper hMember
  simp only [builtinWrappers, List.mem_cons, List.not_mem_nil, or_false] at hMember
  rcases hMember with rfl | rfl | rfl
  · exact PointerWrapper.sincere_of_isHandle rfl
  · exact (PointerWrapper.Registers.borrowing _).sincere
  · exact PointerWrapper.Registers.framework.sincere

/-- What a command registers that crafts nothing makes handles of no type but its own. -/
theorem Command.sincere_of_may {command : Command} {session : Session} {wrapper : PointerWrapper}
    (hCrafts : command.crafts = false) (hMay : command.May session (.registration wrapper)) :
    wrapper.Sincere := by
  have hNested (typeId : String) (literal : PointerLiteral)
      (hConverts : session.Converts typeId literal (.registration wrapper)) : wrapper.Sincere := by
    obtain ⟨pointer, _, other, _, inner, _, rfl⟩ := hConverts
    exact (PointerWrapper.Registers.borrowing _).sincere
  cases command with
  | wrapper command =>
    cases command with
    | register typeId name outward inward =>
      obtain ⟨outward, hHandle, hSame⟩ := hMay
      obtain rfl := Deed.registration.inj hSame
      exact PointerWrapper.sincere_of_isHandle hHandle
    | registerBorrowing typeId name =>
      obtain rfl := Deed.registration.inj hMay
      exact (PointerWrapper.Registers.borrowing _).sincere
    | registerOwning typeId name discipline =>
      obtain rfl := Deed.registration.inj hMay
      exact (PointerWrapper.Registers.owning _ _).sincere
    | registerFramework typeId =>
      obtain rfl := Deed.registration.inj hMay
      exact PointerWrapper.Registers.framework.sincere
    | installBuiltins =>
      rcases hMay with hNever | ⟨other, hMember, hSame⟩
      · cases hNever
      · obtain rfl := Deed.registration.inj hSame
        exact sincere_builtinWrappers _ hMember
    | toHost typeId pointer result => exact hNested _ _ hMay
    | toHostFor signature pointer result =>
      obtain ⟨typeId, _, hConverts⟩ := hMay
      exact hNested _ _ hConverts
    | makeHandle => cases hCrafts
    | _ => simp [May, WrapperCommand.May] at hMay
  | exported call =>
    obtain ⟨object, command⟩ := call
    cases command with
    | init =>
      rcases hMay with hNever | ⟨other, hMember, hSame⟩
      · cases hNever
      · obtain rfl := Deed.registration.inj hSame
        exact sincere_builtinWrappers _ hMember
    | register typeId name outward inward =>
      obtain ⟨typeIdText, nameText, toHost, fromHost, _, _, rfl, _, hSame⟩ := hMay
      obtain rfl := Deed.registration.inj hSame
      exact PointerWrapper.sincere_of_isHandle hCrafts
    | registerCounted typeId name =>
      obtain ⟨typeIdText, nameText, _, _, hSame⟩ := hMay
      obtain rfl := Deed.registration.inj hSame
      exact (PointerWrapper.Registers.owning _ _).sincere
    | registerFramework typeId =>
      obtain ⟨text, _, hSame⟩ := hMay
      obtain rfl := Deed.registration.inj hSame
      exact PointerWrapper.Registers.framework.sincere
    | toHost typeId pointer result =>
      obtain ⟨text, _, hConverts⟩ := hMay
      exact hNested _ _ hConverts
    | _ => simp [May, ExportCommand.May, Session.Advances] at hMay
  | set command =>
    cases command <;> simp [May, SetCommand.May, Session.Advances] at hMay
  | _ => cases hMay

/-- A handle that was asked for where nothing is crafted was passed for its type, and is what the type
makes of the pointer ever after. -/
theorem Command.AsksFor.passed {command : Command} {before : Session} {handle : Handle}
    (hAsks : command.AsksFor before handle) (hCrafts : command.crafts = false)
    (hSincere : before.world.registry.All PointerWrapper.Sincere) :
    ∃ literal wrapper, command.Passes handle.typeId literal ∧
      before.pointerOf? literal = some handle.pointer ∧
      before.world.registry.lookup handle.typeId = .ok wrapper ∧
      wrapper.toHost = .handle handle.typeId handle.typeName handle.ownership := by
  cases hAsks with
  | converts hPasses hPointer hNull hWrapper hConverter =>
    obtain ⟨hMember, rfl⟩ := Registry.mem_of_lookup hWrapper
    have hSame := hSincere _ hMember _ _ _ hConverter
    rw [← hSame] at hPasses hWrapper
    exact ⟨_, _, hPasses, hPointer, hWrapper, hConverter⟩
  | byHand => cases hCrafts

namespace Session

theorem registry_forget (command : Command) (world : World) :
    (command.forget world).registry = world.registry := by
  unfold Command.forget
  split <;> rfl

/-- Commands add to the registered wrappers just what they may register. -/
theorem wrappers_perform (command : Command) (session : Session) :
    ∃ more, (perform command session).2.world.registry.wrappers =
        session.world.registry.wrappers ++ more ∧
      ∀ wrapper ∈ more, command.May session (.registration wrapper) := by
  obtain ⟨start, finish, hStart, hFinish, hMoves⟩ := exists_moves_perform command session
  have hWrappers := hMoves.wrappers
  rwa [hStart, hFinish, registry_forget] at hWrappers

/-- Wrappers stay registered. -/
theorem prefix_performAll (commands : List Command) (session : Session) :
    session.world.registry.wrappers <+:
      (performAll commands session).2.world.registry.wrappers := by
  induction commands generalizing session with
  | nil => exact List.prefix_rfl
  | cons command rest ih =>
    obtain ⟨more, hMore, _⟩ := wrappers_perform command session
    exact (List.prefix_append _ more).trans (hMore ▸ ih (perform command session).2)

/-- If nothing is crafted, every type makes handles of its own only. -/
theorem sincere_performAll {commands : List Command}
    (hCrafts : ∀ command ∈ commands, command.crafts = false) {session : Session}
    (hSincere : session.world.registry.All PointerWrapper.Sincere) :
    (performAll commands session).2.world.registry.All PointerWrapper.Sincere := by
  induction commands generalizing session with
  | nil => exact hSincere
  | cons command rest ih =>
    obtain ⟨more, hMore, hMay⟩ := wrappers_perform command session
    have hAfter : (perform command session).2.world.registry.All PointerWrapper.Sincere := by
      intro wrapper hWrapper
      rw [hMore, List.mem_append] at hWrapper
      rcases hWrapper with hOld | hNew
      · exact hSincere wrapper hOld
      · exact Command.sincere_of_may (hCrafts command List.mem_cons_self) (hMay wrapper hNew)
    exact ih (fun other hOther => hCrafts other (List.mem_cons_of_mem _ hOther)) hAfter

def Passed (commands : List Command) (typeId : String) (pointer : Pointer) : Prop :=
  ∃ earlier command later literal, commands = earlier ++ command :: later ∧
    command.Passes typeId literal ∧ (performAll earlier {}).2.pointerOf? literal = some pointer

/-- Whether the books of a session are in order, but for objects that have got lost without a name. -/
def Sound (session : Session) : Prop :=
  ∃ lost : Multiset Holding, Account.Balanced ⟨lost + session.holdings, session.world⟩

theorem sound_empty : Sound {} := ⟨0, (zero_add (holdings {})).symm ▸ balanced_empty⟩

/-- Objects that have got lost without a name do not disturb the books. -/
theorem Sound.perform {session : Session} (hSound : session.Sound) (command : Command) :
    (perform command session).2.Sound := by
  obtain ⟨lost, hBalanced⟩ := hSound
  obtain ⟨more, _, hMoves⟩ := command.exists_lost session
  have hStart : Account.Balanced ⟨lost + session.holdings, command.forget session.world⟩ := by
    unfold Command.forget
    split <;> exact hBalanced
  have hAfter := ((hMoves.beside lost).trans
    (.host (World.changes_settle _) _)).balanced hStart
  exact ⟨lost + more, by rwa [add_assoc, perform_snd]⟩

theorem Sound.performAll {session : Session} (hSound : session.Sound) (commands : List Command) :
    (performAll commands session).2.Sound := by
  induction commands generalizing session with
  | nil => exact hSound
  | cons command rest ih => exact ih (hSound.perform command)

/-- Whether a session has come from another one without anything having been done on demand. -/
def Follows (before during : Session) : Prop :=
  ∀ may others, Moves may ⟨others + before.holdings, before.world⟩
    ⟨others + during.holdings, during.world⟩

theorem Sound.of_follows {before during : Session} (hSound : before.Sound)
    (hFollows : Follows before during) : during.Sound := by
  obtain ⟨lost, hBalanced⟩ := hSound
  exact ⟨lost, (hFollows (fun _ => False) lost).balanced hBalanced⟩

/-- A handle that lives in such a session was made before. -/
theorem Follows.made {before during : Session} (hFollows : Follows before during)
    {history : List Handling} (hChronicle : before.world.Chronicle history) {address : Nat}
    {handle : Handle} (hHandle : during.world.host.handle? address = some handle) :
    ⟨.retain, address, handle⟩ ∈ history := by
  obtain ⟨more, hDuring, hBetween⟩ := (hFollows (fun _ => False) 0).chronicle hChronicle
  rcases List.mem_append.mp ((hDuring.live address handle).mp hHandle).1 with hOld | hNew
  · exact hOld
  · obtain ⟨_, _, _, hHandled, _⟩ := hBetween _ hNew
    cases hHandled with
    | made _ hMay => exact hMay.elim

theorem Follows.wrappers_prefix {before during : Session} (hFollows : Follows before during) :
    before.world.registry.wrappers <+: during.world.registry.wrappers := by
  obtain ⟨more, hMore, _⟩ := (hFollows (fun _ => False) 0).wrappers
  exact ⟨more, hMore.symm⟩

theorem follows_build {literal : Host.Literal} {before during : Session} {value : Ref}
    (hBuild : (build literal).run.run before = (.ok value, during)) : Follows before during := by
  intro may others
  have hSteps := neutral_build literal may (.ofNative others) before
  unfold Transfers Hands at hSteps
  rw [hBuild, onSuccess_ok, zero_add, ledger_session, ledger_session] at hSteps
  exact hSteps.moves

/-- A session in which the host object at an address is gone. -/
def without (session : Session) (address : Nat) : Session :=
  { session with world := { session.world with host := session.world.host.free address } }

/-- What a handle owns is alive, and its retain count has a part for the handle on top of all others. -/
theorem Sound.alive {session : Session} (hSound : session.Sound) {address target : Nat}
    {handle : Handle} (hHandle : session.world.host.handle? address = some handle)
    (hPointer : handle.pointer = .native target)
    (hOwnership : handle.ownership = some .nativeObject ∨ handle.ownership = some .frameworkObject) :
    (session.world.native.object? target).isSome = true ∧
      (session.without address).owners target + 1 ≤ session.world.native.retainCount target := by
  obtain ⟨lost, hBalanced⟩ := hSound
  obtain ⟨object, hObject, hBody⟩ := Heap.handle?_eq_some_iff.mp hHandle
  have hOwns : object.holdings.count (.reference target) = 1 := by
    rw [Object.count_holdings, Object.owns, hBody]
    rcases hOwnership with hNative | hNative <;> simp [Handle.owns, hNative, hPointer]
  have hCount := hBalanced.retainCount_eq target
  have hRest : (session.without address).owners target =
      (session.holdings + (session.world.host.free address).holdings).count (.reference target) :=
    owners_eq _ _
  rw [Account.owners, Heap.holdings_free hObject] at hCount
  simp only [Multiset.count_add] at hCount hRest
  refine ⟨?_, by omega⟩
  obtain ⟨found, hFound⟩ := hBalanced.exists_object target (by
    rw [← Multiset.count_pos, Heap.holdings_free hObject]
    simp only [Multiset.count_add]
    omega)
  exact Option.isSome_of_eq_some hFound

/-- A conversion to a pointer that a command makes and that succeeds: for which type, of which value and in
which session, and what it comes to. -/
inductive Yields (before : Session) :
    Command → String → Ref → Session → Pointer → Prop
  | named {typeId : String} {literal : Host.Literal} {value : Ref} {during : Session}
      {pointer : Pointer} (hBuild : (build literal).run.run before = (.ok value, during))
      (hRun : ((fromHost typeId value).run.run during.world).1 = .ok pointer) :
      Yields before (.wrapper (.fromHost typeId literal)) typeId value during pointer
  | encoded {signature typeId : String} {literal : Host.Literal} {value : Ref} {during : Session}
      {pointer : Pointer} (hIdentifier : TypeEncoding.identifier? signature = some typeId)
      (hBuild : (build literal).run.run before = (.ok value, during))
      (hRun : ((fromHostFor signature value).run.run during.world).1 = .ok pointer) :
      Yields before (.wrapper (.fromHostFor signature literal)) typeId value during pointer
  | exported {object : Option String} {text : TextArgument} {typeId : String}
      {literal : Host.Literal} {value : Ref} {during : Session} {pointer : Pointer} {status : Int}
      (hText : readText text = .ok typeId)
      (hBuild : (build literal).run.run before = (.ok value, during))
      (hRun : ((Export.fromHost thread text (some value) true).run (during.world.hold value)).1 =
        (status, some pointer)) :
      Yields before (.exported ⟨object, .fromHost text (some literal) true⟩) typeId value
        { during with world := during.world.hold value } pointer

/-- A command that yields a pointer has built the value first, and done nothing on demand. -/
theorem Yields.follows {before during : Session} {command : Command} {typeId : String} {value : Ref}
    {pointer : Pointer} (hYields : Yields before command typeId value during pointer) :
    Follows before during := by
  cases hYields with
  | named hBuild => exact follows_build hBuild
  | encoded _ hBuild => exact follows_build hBuild
  | exported _ hBuild =>
    intro may others
    simp only [holdings_world]
    exact .step (follows_build hBuild may others) (.host (.hold [_]))

theorem run_fromHostFor {signature typeId : String}
    (hIdentifier : TypeEncoding.identifier? signature = some typeId) (value : Ref) (world : World) :
    (fromHostFor signature value).run.run world = (fromHost typeId value).run.run world := by
  rw [fromHostFor, identifierOf, hIdentifier]
  rfl

/-- What a conversion comes to for a type of handles is what is accepted for the type. -/
theorem Yields.accepted {before during : Session} {command : Command} {typeId name : String}
    {ownership : Option Discipline} {value : Ref} {pointer : Pointer}
    (hYields : Yields before command typeId value during pointer)
    (hBound : during.world.registry.lookup typeId = .ok (.handles typeId name ownership)) :
    during.world.accepted? typeId value = some pointer := by
  cases hYields with
  | named _ hRun =>
    rw [run_fromHost_handles hBound] at hRun
    cases hAccepted : during.world.accepted? typeId value <;> rw [hAccepted] at hRun <;> cases hRun
    rfl
  | encoded hIdentifier _ hRun =>
    rw [run_fromHostFor hIdentifier, run_fromHost_handles hBound] at hRun
    cases hAccepted : during.world.accepted? typeId value <;> rw [hAccepted] at hRun <;> cases hRun
    rfl
  | @exported object text _ literal _ during _ status hText hBuild hRun =>
    obtain ⟨bytes, rfl⟩ : ∃ bytes, text = some bytes := by
      cases text with
      | none => cases hText
      | some bytes => exact ⟨bytes, rfl⟩
    rw [World.run_exported_fromHost hBound thread hText value] at hRun
    dsimp only
    cases hAccepted : (during.world.hold value).accepted? typeId value <;>
      rw [hAccepted] at hRun <;> cases hRun
    rfl

/-- What is behind a pointer that came back from the host for a type: a handle that lives at the address
that the value refers to. -/
structure Vouched (commands : List Command) (typeId : String) (ownership : Option Discipline)
    (session : Session) (address : Nat) (pointer : Pointer) : Prop where
  /-- The handle is one of the type, for that pointer, and under the discipline of the type. -/
  handle : ∃ typeName, session.world.host.handle? address =
    some { typeId, typeName, pointer, ownership }
  /-- The pointer was passed to the host for the type before. -/
  passed : Passed commands typeId pointer
  /-- A counted native object is alive, and the handle has a part in its retain count, on top of what
  is owned by slots, values and all other handles. -/
  alive : ∀ target, pointer = .native target →
    ownership = some .nativeObject ∨ ownership = some .frameworkObject →
      (session.world.native.object? target).isSome = true ∧
        (session.without address).owners target + 1 ≤ session.world.native.retainCount target

/-- In every run in which nothing else makes handles, whatever is done in between: a pointer that comes
back from the host for a type of handles, and is not NULL, comes back from a handle of that type, was
passed to the host for that type before, and is alive if the type counts references. -/
theorem pointers_vouched {commands : List Command}
    (hCrafts : ∀ command ∈ commands, command.crafts = false) {command : Command}
    {typeId name : String} {ownership : Option Discipline} {wrapper : PointerWrapper}
    (hRegisters : wrapper.Registers typeId name ownership) {value : Ref} {during : Session}
    {pointer : Pointer}
    (hYields : Yields (performAll commands {}).2 command typeId value during pointer)
    (hBound : during.world.registry.lookup typeId = .ok wrapper) (hNull : pointer ≠ .null) :
    ∃ address, value = .object address ∧
      Vouched commands typeId ownership during address pointer := by
  rw [hRegisters.eq] at hBound
  have hFollows := hYields.follows
  obtain ⟨address, handle, rfl, hHandle, rfl, rfl⟩ :=
    World.exists_handle?_of_accepted? (hYields.accepted hBound) hNull
  obtain ⟨history, hChronicle, hArises⟩ := exists_chronicle commands
  obtain ⟨earlier, asking, later, rfl, hAsking⟩ := hArises _ (hFollows.made hChronicle hHandle)
  have hEarlier : ∀ other ∈ earlier, other.crafts = false :=
    fun other hOther => hCrafts other (List.mem_append_left _ hOther)
  obtain ⟨literal, found, hPasses, hPointer, hLookup, hConverter⟩ :=
    (hAsking.asked rfl).passed (hCrafts asking (by simp))
      (sincere_performAll hEarlier (by nofun))
  -- The type has kept the converter that made the handle, so the handle is under its discipline.
  have hGrown : (performAll earlier {}).2.world.registry.wrappers <+:
      during.world.registry.wrappers := by
    refine List.IsPrefix.trans ?_ hFollows.wrappers_prefix
    rw [performAll_append]
    exact prefix_performAll (asking :: later) _
  have hSame := Registry.lookup_unique hGrown hLookup hBound
  rw [hSame, PointerWrapper.handles] at hConverter
  obtain ⟨_, hName, hOwnership⟩ := ToHost.handle.inj hConverter
  subst hName hOwnership
  have hSound := (sound_empty.performAll (earlier ++ asking :: later)).of_follows hFollows
  exact ⟨address, rfl, ⟨handle.typeName, hHandle⟩,
    ⟨earlier, asking, later, literal, rfl, hPasses, hPointer⟩,
    fun target hTarget hNative => hSound.alive hHandle hTarget hNative⟩

/-- A native object that is left to its handle. -/
def keptByHandle : List Command :=
  [.object (.create "a" .tracked), .wrapper (.registerOwning "T" "T" .nativeObject),
    .wrapper (.toHost "T" (.native "a") (some "h")), .exported ⟨some "a", .objectRelease⟩]

/-- The object comes back from the handle, and is alive. -/
theorem pointers_vouched_keptByHandle :
    (∀ command ∈ keptByHandle, command.crafts = false) ∧
      PointerWrapper.Registers "T" "T" (some .nativeObject) (.owning "T" "T" .nativeObject) ∧
      Yields (performAll keptByHandle {}).2 (.wrapper (.fromHost "T" (.slot "h"))) "T" (.object 0)
        (performAll keptByHandle {}).2 (.native 0) ∧
      (performAll keptByHandle {}).2.world.registry.lookup "T" =
        .ok (.owning "T" "T" .nativeObject) ∧
      Pointer.native 0 ≠ .null ∧
      ∃ address, Ref.object 0 = .object address ∧ Vouched keptByHandle "T" (some .nativeObject)
        (performAll keptByHandle {}).2 address (.native 0) := by
  have hCrafts : ∀ command ∈ keptByHandle, command.crafts = false := by decide
  have hYields : Yields (performAll keptByHandle {}).2 (.wrapper (.fromHost "T" (.slot "h"))) "T"
      (.object 0) (performAll keptByHandle {}).2 (.native 0) := .named rfl rfl
  have hBound : (performAll keptByHandle {}).2.world.registry.lookup "T" =
      .ok (.owning "T" "T" .nativeObject) := rfl
  exact ⟨hCrafts, .owning "T" .nativeObject, hYields, hBound, nofun,
    pointers_vouched hCrafts (.owning "T" .nativeObject) hYields hBound nofun⟩

end Session

end HeapBridge
