import HeapBridge.Proofs.Record.Acts
/-!
The log accounts for the state. Every act keeps the log in step with what it tells of: proxies that are made
and come to their ends, wrappers that are registered, handles that are released, and the installation of the
built-in wrappers. Only a writer that dies while it logs its registration leaves an event to which there is
no wrapper, and then the registry is poisoned. The main statement is that this holds over every run.
-/
namespace HeapBridge

open Host (Heap Ref)
open Native (NativeClass Payload)

variable {world before middle after : World} {address : Nat}

namespace Native

/-- The number of live proxies. -/
def Heap.proxyCount (heap : Native.Heap) : Nat := heap.objects.countP (·.payload.nativeClass = .foreignSet)

namespace Heap

variable {heap : Native.Heap}

/-- Each proxy holds one reference, and nothing else holds any. -/
theorem proxyCount_eq (heap : Heap) : heap.proxyCount = heap.references.length := by
  rw [proxyCount, references, List.length_flatMap, List.countP_eq_length_filter]
  induction heap.objects with
  | nil => rfl
  | cons object rest ih =>
    obtain ⟨retainCount, payload⟩ := object
    rw [List.map_cons, List.sum_cons, ← ih]
    cases payload <;> simp [Payload.nativeClass, Payload.references, Nat.add_comm]

/-- What an object is to the number of proxies. -/
theorem proxyCount_setCell {cell : Cell} (hCell : heap.cell? address = some cell) (new : Option Cell) :
    Multiset.card cell.references + (heap.setCell address new).proxyCount =
      Multiset.card (new.elim 0 Cell.references) + heap.proxyCount := by
  have hCard := congrArg Multiset.card (references_setCell hCell new)
  simpa only [Multiset.card_add, Multiset.coe_card, proxyCount_eq] using hCard

theorem proxyCount_reserve (heap : Heap) (nativeClass : NativeClass) :
    (heap.reserve nativeClass).2.proxyCount = heap.proxyCount := by
  rw [proxyCount_eq, proxyCount_eq, references_reserve]

theorem proxyCount_install {nativeClass : NativeClass}
    (hCell : heap.cell? address = some (.reserved nativeClass)) (payload : Payload) :
    (heap.install address payload).proxyCount = payload.references.length + heap.proxyCount := by
  have hSet := proxyCount_setCell hCell (some (.live { retainCount := 1, payload }))
  simpa [Cell.references, install] using hSet

theorem proxyCount_discard (heap : Heap) (address : Nat) : (heap.discard address).proxyCount = heap.proxyCount := by
  unfold discard
  split
  next nativeClass hCell =>
    have hSet := proxyCount_setCell hCell none
    simpa [Cell.references] using hSet
  next => rfl

theorem proxyCount_retain (heap : Heap) (address : Nat) : (heap.retain address).proxyCount = heap.proxyCount := by
  unfold retain
  split
  next object hObject =>
    have hSet := proxyCount_setCell (object?_eq_some_iff.mp hObject)
      (some (.live { object with retainCount := object.retainCount + 1 }))
    simpa [Cell.references] using hSet
  next => rfl

/-- With the last reference to a proxy it is one less. -/
theorem proxyCount_release (heap : Heap) (address : Nat) :
    heap.proxyCount = ((heap.release address).1.elim [] Payload.references).length +
      (heap.release address).2.proxyCount := by
  cases hObject : heap.object? address with
  | none =>
    rw [release, hObject]
    exact (Nat.zero_add _).symm
  | some object =>
    have hSet := proxyCount_setCell (object?_eq_some_iff.mp hObject)
    rw [release, hObject]
    dsimp only
    split
    next =>
      have hGone := hSet none
      simpa [Cell.references] using hGone.symm
    next =>
      have hKept := hSet (some (.live { object with retainCount := object.retainCount - 1 }))
      simpa [Cell.references] using hKept.symm

end Heap

end Native

def Event.released? : Event → Option String
  | .handleReleased typeId => some typeId
  | _ => none

/-- The type and the name that an event tells to be registered. -/
def Event.registered? : Event → Option (String × String)
  | .wrapperRegistered typeId name => some (typeId, name)
  | _ => none

/-- The type of the handle that has come to its end on an occasion, if the handle owned a reference. -/
def Handling.ended? (handling : Handling) : Option String :=
  if handling.request = .release ∧ handling.handle.ownership.isSome then some handling.handle.typeId
  else none

/-- What a wrapper binds: its type and the name of that. -/
def PointerWrapper.binding (wrapper : PointerWrapper) : String × String := (wrapper.typeId, wrapper.name)

/-- Whether the built-in wrappers were installed. -/
def Registry.isInstalled (registry : Registry) : Bool :=
  match registry.builtins with
  | some (.ok ()) => true
  | _ => false

/-- Where no discipline is called no handle that owned a reference has come to its end. -/
theorem World.Handled.ended?_eq_nil {may : Deed → Prop} {more : List Handling}
    (hHandled : before.Handled may after more) (hCalls : after.calls = before.calls) :
    more.filterMap Handling.ended? = [] := by
  cases hHandled with
  | made => rfl
  | nothing => rfl
  | @ended address handle _ _ _ hRelease =>
    rw [hCalls, List.self_eq_append_right] at hRelease
    obtain ⟨typeId, typeName, pointer, ownership⟩ := handle
    cases ownership with
    | none => rfl
    | some discipline => cases hRelease

/-- Whether the registrations of a table are told apart by their types, up to one whose writer died: then the
registry is poisoned, and the table does not have it. -/
structure Registry.Bears (registry : Registry) (dead : Option (String × String)) : Prop where
  distinct : (registry.wrappers.map (·.typeId)).Nodup
  poisoned : ∀ binding, dead = some binding → registry.poisoned = true
  absent : ∀ binding, dead = some binding → binding.1 ∉ registry.wrappers.map (·.typeId)

/-- Whether events and what has become of handles account for the change from one world to another. -/
structure World.Reports (before after : World) (told : List Event) (more : List Handling) : Prop where
  /-- There are more proxies by those that are made, and fewer by those that come to their ends. -/
  proxies : told.count .setCreated + before.native.proxyCount =
    told.count .setReleased + after.native.proxyCount
  /-- Handles that owned a reference come to their ends in the order of the events. -/
  handles : told.filterMap Event.released? = more.filterMap Handling.ended?
  /-- Wrappers are registered in the order of the events. -/
  wrappers : ∀ dead, before.registry.Bears dead → ∃ next, after.registry.Bears next ∧
    before.registry.wrappers.map PointerWrapper.binding ++ dead.toList ++
        told.filterMap Event.registered? =
      after.registry.wrappers.map PointerWrapper.binding ++ next.toList
  builtins : before.registry.isInstalled.toNat + told.count .builtinsInstalled =
    after.registry.isInstalled.toNat

namespace World.Reports

variable {told later : List Event} {more others : List Handling}

/-- What is told of proxies and handles, while the registry stays as it is. -/
theorem aside (hRegistry : after.registry = before.registry)
    (hProxies : told.count .setCreated + before.native.proxyCount =
      told.count .setReleased + after.native.proxyCount)
    (hHandles : told.filterMap Event.released? = more.filterMap Handling.ended?)
    (hWrappers : told.filterMap Event.registered? = []) (hBuiltins : told.count .builtinsInstalled = 0) :
    before.Reports after told more where
  proxies := hProxies
  handles := hHandles
  wrappers := fun dead hBears => ⟨dead, hRegistry ▸ hBears, by rw [hWrappers, List.append_nil, hRegistry]⟩
  builtins := by rw [hBuiltins, hRegistry, Nat.add_zero]

/-- What is neither logged nor anything that the log tells of. -/
theorem silent (hRegistry : after.registry = before.registry)
    (hProxies : after.native.proxyCount = before.native.proxyCount)
    (hHandles : more.filterMap Handling.ended? = []) : before.Reports after [] more :=
  aside hRegistry (by simp [hProxies]) hHandles.symm rfl rfl

/-- Reports in a row are told in order. -/
theorem trans (first : before.Reports middle told more) (second : middle.Reports after later others) :
    before.Reports after (told ++ later) (more ++ others) where
  proxies := by
    have hFirst := first.proxies
    have hSecond := second.proxies
    simp only [List.count_append]
    omega
  handles := by simp only [List.filterMap_append, first.handles, second.handles]
  wrappers := by
    intro dead hBears
    obtain ⟨next, hNext, hFirst⟩ := first.wrappers dead hBears
    obtain ⟨last, hLast, hSecond⟩ := second.wrappers next hNext
    refine ⟨last, hLast, ?_⟩
    rw [List.filterMap_append, ← List.append_assoc, hFirst, hSecond]
  builtins := by rw [List.count_append, ← Nat.add_assoc, first.builtins, second.builtins]

/-- The end of a proxy is logged, whoever gives up its last reference. -/
theorem drop (world : World) (address : Nat) : ∃ told,
    (world.dropNative address).2.log = world.log ++ told ∧
      world.Reports (world.dropNative address).2 told [] := by
  have hRegistry := (World.aside_dropNative address world).2.2
  have hProxies := world.native.proxyCount_release address
  unfold World.dropNative at hRegistry ⊢
  rcases hRelease : world.native.release address with ⟨payload, native⟩
  rw [hRelease] at hProxies hRegistry
  have hSilent {after : World} (hSame : after.registry = world.registry) (hNative : after.native = native)
      (hCard : native.proxyCount = world.native.proxyCount) (hLog : after.log = world.log) :
      ∃ told, after.log = world.log ++ told ∧ world.Reports after told [] :=
    ⟨[], by rw [hLog, List.append_nil], silent hSame (by rw [hNative, hCard]) rfl⟩
  cases payload with
  | none => exact hSilent hRegistry rfl (by simpa using hProxies.symm) rfl
  | some payload =>
    cases payload with
    | foreignSet backing =>
      refine ⟨[.setReleased], rfl, aside hRegistry ?_ rfl rfl rfl⟩
      simpa [World.destroy, World.emit, Payload.references] using hProxies
    | _ => exact hSilent hRegistry rfl (by simpa [Payload.references] using hProxies.symm) rfl

/-- What a handle owned is released, and the end of a proxy that comes with it is logged. -/
theorem dropHandle (world : World) (discipline : Discipline) (pointer : Pointer) : ∃ told,
    (world.dropHandle discipline pointer).2.log = world.log ++ told ∧
      world.Reports (world.dropHandle discipline pointer).2 told [] := by
  cases discipline <;> cases pointer <;>
    first
    | exact drop world _
    | exact ⟨[], (List.append_nil _).symm, silent rfl rfl rfl⟩

end World.Reports

/-- Whether a step is accounted for by what is logged at it. -/
def World.Recounts (before after : World) : Prop :=
  ∃ told more, after.log = before.log ++ told ∧ before.Handled (fun _ => True) after more ∧
    before.Reports after told more

namespace World.Recounts

/-- Where no handle is made and none comes to its end. -/
theorem apart {told : List Event} (hHost : after.host = before.host) (hCalls : after.calls = before.calls)
    (hLog : after.log = before.log ++ told) (hReports : before.Reports after told []) :
    before.Recounts after :=
  ⟨told, [], hLog, .nothing (fun _ => by rw [hHost]) (by rw [hHost]) hCalls, hReports⟩

/-- Host code that calls no discipline and changes nothing that the log tells of. -/
theorem quiet (change : Host.Change before after) (hCalls : after.calls = before.calls)
    (hLog : after.log = before.log) (hNative : after.native = before.native) : before.Recounts after := by
  obtain ⟨more, hHandled⟩ := @Host.Change.handled (fun _ => True) _ _ change
  exact ⟨[], more, by rw [hLog, List.append_nil], hHandled,
    .silent change.cursors_registry.2 (by rw [hNative]) (hHandled.ended?_eq_nil hCalls)⟩

/-- The end of a handle that owned a reference is logged before what it owned is released. -/
theorem reclaim_of_owned {object : Host.Object} {handle : Handle} {discipline : Discipline}
    (hObject : world.host.object? address = some object) (hBody : object.body = .handle handle)
    (hOwned : handle.ownership = some discipline)
    (hFree : world.isReferenced (.object address) = false) :
    world.Recounts (world.reclaim address).2 := by
  obtain ⟨typeId, typeName, pointer, ownership⟩ := handle
  obtain rfl : ownership = some discipline := hOwned
  obtain ⟨ending, hEnding⟩ : ∃ ending : World, ending = (World.emit (.handleReleased typeId)
    { world with host := world.host.free address }).noteCall { discipline, request := .release, pointer } :=
    ⟨_, rfl⟩
  have hReclaim : world.reclaim address = ending.dropHandle discipline pointer := by
    unfold World.reclaim
    rw [Heap.view_of_object? hObject]
    dsimp only
    rw [hBody, hEnding]
  have hTold : world.Reports ending [.handleReleased typeId]
      [⟨.release, address, ⟨typeId, typeName, pointer, some discipline⟩⟩] :=
    hEnding ▸ .aside rfl rfl rfl rfl rfl
  have hHandle : world.host.handle? address = some ⟨typeId, typeName, pointer, some discipline⟩ :=
    Heap.handle?_eq_some_iff.mpr ⟨object, hObject, hBody⟩
  obtain ⟨told, hLog, hReports⟩ := World.Reports.dropHandle ending discipline pointer
  have hCalls := World.calls_reclaim hObject
  have hHost := World.reclaim_host address world
  rw [hBody] at hCalls
  rw [hReclaim] at hCalls hHost ⊢
  refine ⟨_, _, ?_, .ended hHandle hFree hHost hCalls, hTold.trans hReports⟩
  rw [hLog, ← List.append_assoc, hEnding]
  rfl

/-- Host code that gives up an object is accounted for. -/
theorem reclaim (hLive : world.host.isLive (.object address) = true)
    (hFree : world.isReferenced (.object address) = false) :
    world.Recounts (world.reclaim address).2 := by
  obtain ⟨object, hObject⟩ := Option.isSome_iff_exists.mp hLive
  by_cases hOwned : ∃ handle discipline, object.body = .handle handle ∧ handle.ownership = some discipline
  · obtain ⟨handle, discipline, hBody, hOwned⟩ := hOwned
    exact reclaim_of_owned hObject hBody hOwned hFree
  · have hReclaim : world.reclaim address =
        (object.references, { world with host := world.host.free address }) := by
      unfold World.reclaim
      rw [Heap.view_of_object? hObject]
      dsimp only
      split
      next typeId typeName pointer discipline hBody => exact (hOwned ⟨_, discipline, hBody, rfl⟩).elim
      next => rfl
    have hQuiet := quiet (.giveUp hLive hFree)
    rw [hReclaim] at hQuiet ⊢
    exact hQuiet rfl rfl rfl

end World.Recounts

namespace Registry

variable {registry next : Registry} {wrapper : PointerWrapper} {dead : Option (String × String)}

/-- A wrapper is taken in where nothing died, and if its type is not there yet. -/
theorem free_of_insert (hInsert : registry.insert wrapper = .ok next) :
    isIdentifier wrapper.typeId = true ∧ registry.poisoned = false ∧
      wrapper.typeId ∉ registry.wrappers.map (·.typeId) := by
  unfold insert at hInsert
  split_ifs at hInsert with hIdentifier hPoisoned hFound
  refine ⟨by simpa using hIdentifier, by simpa using hPoisoned, ?_⟩
  simpa [find?] using hFound

theorem Bears.dead_eq_none (hBears : registry.Bears dead) (hAlive : registry.poisoned = false) :
    dead = none := by
  cases dead with
  | none => rfl
  | some binding => rw [hBears.poisoned binding rfl] at hAlive; cases hAlive

/-- A registration leaves the lock to the next one. -/
theorem Bears.push (hBears : registry.Bears dead) (hInsert : registry.insert wrapper = .ok next) :
    next.Bears none := by
  obtain ⟨_, _, hNew⟩ := free_of_insert hInsert
  refine ⟨?_, nofun, nofun⟩
  rw [insert_eq_ok hInsert, Registry.push, List.map_append, List.map_cons, List.map_nil,
    ← List.concat_eq_append]
  exact hBears.distinct.concat hNew

end Registry

namespace World.Reports

variable {registry : Registry} {wrapper : PointerWrapper}

/-- A registration is logged with the wrapper that the table has from then on. -/
theorem registered (hInsert : before.registry.insert wrapper = .ok registry)
    (hRegistry : after.registry = registry) (hNative : after.native = before.native) :
    before.Reports after [.wrapperRegistered wrapper.typeId wrapper.name] [] where
  proxies := by rw [hNative]; rfl
  handles := rfl
  wrappers := by
    intro dead hBears
    obtain ⟨_, hAlive, _⟩ := Registry.free_of_insert hInsert
    refine ⟨none, hRegistry ▸ hBears.push hInsert, ?_⟩
    obtain rfl := hBears.dead_eq_none hAlive
    simp [hRegistry, Registry.insert_eq_ok hInsert, Registry.push, PointerWrapper.binding,
      Event.registered?]
  builtins := by rw [hRegistry, Registry.insert_eq_ok hInsert]; rfl

/-- A writer that dies leaves the event of its registration without a wrapper. -/
theorem died (hInsert : before.registry.insert wrapper = .ok registry)
    (hRegistry : after.registry = { before.registry with poisoned := true })
    (hNative : after.native = before.native) :
    before.Reports after [.wrapperRegistered wrapper.typeId wrapper.name] [] where
  proxies := by rw [hNative]; rfl
  handles := rfl
  wrappers := by
    intro dead hBears
    obtain ⟨_, hAlive, hNew⟩ := Registry.free_of_insert hInsert
    obtain rfl := hBears.dead_eq_none hAlive
    refine ⟨some wrapper.binding, ?_, by simp [hRegistry, PointerWrapper.binding, Event.registered?]⟩
    rw [hRegistry]
    exact ⟨hBears.distinct, fun _ _ => rfl, fun binding hBinding => by
      obtain rfl := Option.some.inj hBinding
      exact hNew⟩
  builtins := by rw [hRegistry]; rfl

/-- A registration that is rejected logs a rejection at most, even if its writer dies. -/
theorem rejected (wrapper : PointerWrapper) (error : BridgeError) {poisoned : Bool}
    (hRegistry : after.registry = { before.registry with poisoned })
    (hPoisoned : before.registry.poisoned = true → poisoned = true)
    (hNative : after.native = before.native) :
    before.Reports after (Registry.insertEvent wrapper (.error error)).toList [] where
  proxies := by rw [hNative]; cases error <;> rfl
  handles := by cases error <;> rfl
  wrappers := by
    intro dead hBears
    refine ⟨dead, ?_, ?_⟩
    · rw [hRegistry]
      exact ⟨hBears.distinct, fun binding hDead => hPoisoned (hBears.poisoned binding hDead), hBears.absent⟩
    · rw [hRegistry]
      cases error <;> exact List.append_nil _
  builtins := by rw [hRegistry]; cases error <;> rfl

/-- An installation is logged once, and only if it has succeeded. -/
theorem installed {outcome : Except BridgeError Unit} (hFirst : before.registry.builtins = none)
    (hRegistry : after.registry = { before.registry with builtins := some outcome })
    (hNative : after.native = before.native) :
    before.Reports after (installationEvent outcome).toList [] where
  proxies := by rw [hNative]; cases outcome <;> rfl
  handles := by cases outcome <;> rfl
  wrappers := by
    intro dead hBears
    refine ⟨dead, ?_, ?_⟩
    · rw [hRegistry]
      exact ⟨hBears.distinct, hBears.poisoned, hBears.absent⟩
    · rw [hRegistry]
      cases outcome <;> exact List.append_nil _
  builtins := by
    rw [hRegistry]
    unfold Registry.isInstalled
    rw [hFirst]
    cases outcome <;> rfl

end World.Reports

/-- What a new handle owns is retained, and that is not logged. -/
theorem World.retainOwned_log (world : World) (handle : Handle) :
    (world.retainOwned handle).log = world.log := by
  obtain ⟨_, _, pointer, ownership⟩ := handle
  rcases ownership with _ | discipline
  · rfl
  · cases discipline <;> cases pointer <;> rfl

theorem World.proxyCount_retainOwned (world : World) (handle : Handle) :
    (world.retainOwned handle).native.proxyCount = world.native.proxyCount := by
  obtain ⟨_, _, pointer, ownership⟩ := handle
  rcases ownership with _ | discipline
  · rfl
  · cases discipline <;> cases pointer <;> first | rfl | exact Native.Heap.proxyCount_retain _ _

/-- Each act is accounted for by what is logged at it. -/
theorem Act.recounts (act : Act before after) : before.Recounts after := by
  cases act with
  | host change =>
    cases change with
    | giveUp hLive hFree => exact .reclaim hLive hFree
    | hold refs => exact .quiet (.hold refs) rfl rfl rfl
    | unhold ref => exact .quiet (.unhold ref) rfl rfl rfl
    | allocate object hBody hUnique => exact .quiet (.allocate object hBody hUnique) rfl rfl rfl
    | put new hOld hNew => exact .quiet (.put new hOld hNew) rfl rfl rfl
    | define script => exact .quiet (.define script) rfl rfl rfl
  | reserve nativeClass =>
    obtain ⟨refusals, hReserve⟩ | ⟨refusals, hReserve⟩ := before.reserve_cases nativeClass <;>
      rw [hReserve]
    · exact .apart rfl rfl (List.append_nil _).symm (.silent rfl rfl rfl)
    · exact .apart rfl rfl (List.append_nil _).symm
        (.silent rfl (Native.Heap.proxyCount_reserve _ _) rfl)
  | discard address =>
    exact .apart rfl rfl (List.append_nil _).symm (.silent rfl (Native.Heap.proxyCount_discard _ _) rfl)
  | @install address payload _ hReserved hOther =>
    obtain ⟨nativeClass, hCell⟩ := hReserved address rfl
    refine .apart rfl rfl (List.append_nil _).symm (.silent rfl ?_ rfl)
    rw [Native.Heap.proxyCount_install hCell]
    cases payload with
    | foreignSet backing => exact (hOther rfl).elim
    | _ => exact Nat.zero_add _
  | @adopt address _ value hReserved =>
    obtain ⟨nativeClass, hCell⟩ := hReserved address rfl
    have hProxies := Native.Heap.proxyCount_install hCell (.foreignSet value)
    exact .apart rfl rfl rfl (.aside rfl (by simpa [World.emit, Payload.references] using hProxies.symm) rfl rfl rfl)
  | retain address =>
    exact .apart rfl rfl (List.append_nil _).symm (.silent rfl (Native.Heap.proxyCount_retain _ _) rfl)
  | drop address =>
    obtain ⟨told, hLog, hReports⟩ := World.Reports.drop before address
    exact .apart (World.dropNative_host _ _) (World.dropNative_calls _ _) hLog hReports
  | handle handle =>
    refine ⟨[], _, ?_, .made handle trivial ?_ ?_, .silent ?_ ?_ rfl⟩
    · rw [List.append_nil]
      exact before.retainOwned_log handle
    · rw [World.retainOwned_host]
    · exact World.retainOwned_calls before handle
    · exact before.retainOwned_registry handle
    · exact before.proxyCount_retainOwned handle
  | register wrapper =>
    rw [run_register_eq]
    cases hInsert : before.registry.insert wrapper with
    | ok registry => exact .apart rfl rfl rfl (.registered hInsert rfl rfl)
    | error error =>
      dsimp only
      rw [World.note_eq]
      exact .apart rfl rfl rfl (.rejected wrapper error rfl id rfl)
  | installed outcome hFirst =>
    rw [World.note_eq]
    exact .apart rfl rfl rfl (.installed hFirst rfl rfl)
  | die wrapper =>
    rw [run_dieRegistering]
    cases hInsert : before.registry.insert wrapper with
    | ok registry =>
      dsimp only [Registry.insertEvent]
      rw [if_pos (Registry.free_of_insert hInsert).1]
      exact .apart rfl rfl rfl (.died hInsert rfl rfl)
    | error error =>
      have hRejected {poisoned : Bool} (hPoisoned : before.registry.poisoned = true → poisoned = true) {after : World}
          (hRegistry : after.registry = { before.registry with poisoned }) (hNative : after.native = before.native) :=
        World.Reports.rejected wrapper error hRegistry hPoisoned hNative
      cases hEvent : Registry.insertEvent wrapper (.error error) with
      | none => exact .apart rfl rfl (List.append_nil _).symm (.silent rfl rfl rfl)
      | some event =>
        rw [hEvent] at hRejected
        dsimp only
        split
        next => exact .apart rfl rfl rfl (hRejected (fun _ => rfl) rfl rfl)
        next => exact .apart rfl rfl rfl (hRejected id rfl rfl)
  | told lastErrors returned => exact .apart rfl rfl (List.append_nil _).symm (.silent rfl rfl rfl)
  | startCursor cursor => exact .apart rfl rfl (List.append_nil _).symm (.silent rfl rfl rfl)
  | moveCursor number cursor => exact .apart rfl rfl (List.append_nil _).symm (.silent rfl rfl rfl)

/-- An occasion on which one of the acts on the way made a handle or ended one. -/
def Handling.During (handling : Handling) (start finish : World) : Prop :=
  ∃ before after, Acts start before ∧ Act before after ∧
    before.Handled (fun _ => True) after [handling] ∧ Acts after finish

/-- Any number of acts is accounted for by what is logged meanwhile. -/
theorem Acts.reports (acts : Acts before after) {history : List Handling}
    (hChronicle : before.Chronicle history) : ∃ told more,
      after.log = before.log ++ told ∧ before.Reports after told more ∧
        after.Chronicle (history ++ more) ∧ ∀ handling ∈ more, handling.During before after := by
  induction acts with
  | refl =>
    exact ⟨[], [], (List.append_nil _).symm, .silent rfl rfl rfl, by rwa [List.append_nil], nofun⟩
  | @step middle after prior last ih =>
    obtain ⟨told, more, hLog, hReports, hMiddle, hDuring⟩ := ih
    obtain ⟨later, others, hLater, hHandled, hLast⟩ := last.recounts
    refine ⟨told ++ later, more ++ others, ?_, hReports.trans hLast, ?_, fun handling hHandling => ?_⟩
    · rw [hLater, hLog, List.append_assoc]
    · rw [← List.append_assoc]
      exact hMiddle.handled hHandled
    · rcases List.mem_append.mp hHandling with hOld | hNew
      · obtain ⟨first, second, hFirst, hAct, hMade, hSecond⟩ := hDuring handling hOld
        exact ⟨first, second, hFirst, hAct, hMade, .step hSecond last⟩
      · exact ⟨middle, after, prior, last, hHandled.of_mem hNew, .refl⟩

end HeapBridge
