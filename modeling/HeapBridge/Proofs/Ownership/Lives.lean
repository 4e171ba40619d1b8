import HeapBridge.Proofs.Ownership.Moves
/-!
The lives of native objects. Storage is reserved, and is given back or becomes an object; an object keeps
its payload until its last reference goes, and a cell that was vacated stays vacant. The main statement
is about any number of moves: which objects come to their end in them, that each does so once and in a
move that takes its last reference, and that the record tells of just these ends.
-/
namespace HeapBridge

open Native (NativeClass Payload)

/-- An object that came to its end: its address and its payload. -/
abbrev End := Nat × Payload

namespace Native

def Payload.tags : Payload → List String
  | .tracked tag => [tag]
  | _ => []

def Payload.isProxy : Payload → Bool
  | .foreignSet _ => true
  | _ => false

namespace Heap

/-- One step of the native heap, and the object that comes to its end in it. -/
inductive Step (heap : Heap) : Heap → List End → Prop where
  | same : Step heap heap []
  | reserve (nativeClass : NativeClass) : Step heap (heap.reserve nativeClass).2 []
  | discard {address : Nat} {nativeClass : NativeClass}
      (hCell : heap.cell? address = some (.reserved nativeClass)) :
      Step heap (heap.discard address) []
  | install {address : Nat} {nativeClass : NativeClass}
      (hCell : heap.cell? address = some (.reserved nativeClass)) (payload : Payload) :
      Step heap (heap.install address payload) []
  | retain {address : Nat} {object : Object} (hObject : heap.object? address = some object) :
      Step heap (heap.retain address) []
  | release {address : Nat} {object : Object} (hObject : heap.object? address = some object)
      (hMore : 1 < object.retainCount) : Step heap (heap.release address).2 []
  | last {address : Nat} {payload : Payload}
      (hObject : heap.object? address = some { retainCount := 1, payload }) :
      Step heap (heap.release address).2 [(address, payload)]

/-- Whether storage was handed out at an address and is gone. -/
def Vacated (heap : Heap) (address : Nat) : Prop :=
  heap.cell? address = none ∧ address < heap.cells.size

variable {heap next : Heap} {ends : List End}

@[simp] theorem size_release (heap : Heap) (address : Nat) :
    (heap.release address).2.cells.size = heap.cells.size := by
  unfold release
  split
  · split <;> exact size_setCell ..
  · rfl

@[simp] theorem size_retain (heap : Heap) (address : Nat) :
    (heap.retain address).cells.size = heap.cells.size := by
  unfold retain
  split
  · exact size_setCell ..
  · rfl

@[simp] theorem size_discard (heap : Heap) (address : Nat) :
    (heap.discard address).cells.size = heap.cells.size := by
  unfold discard
  split
  · exact size_setCell ..
  · rfl

/-- A vacated cell is not used again. -/
theorem Step.vacated (step : heap.Step next ends) {address : Nat} (hVacated : heap.Vacated address) :
    next.Vacated address := by
  obtain ⟨hCell, hIn⟩ := hVacated
  have hOther {other : Nat} {cell : Cell} (hSome : heap.cell? other = some cell) :
      address ≠ other := by
    rintro rfl
    rw [hCell] at hSome
    cases hSome
  cases step with
  | same => exact ⟨hCell, hIn⟩
  | reserve nativeClass =>
    refine ⟨?_, by simp only [Heap.reserve, Array.size_push]; omega⟩
    rw [cell?_reserve, if_neg (Nat.ne_of_lt hIn), hCell]
  | discard hReserved =>
    exact ⟨by rw [cell?_discard hReserved, if_neg (hOther hReserved), hCell], by simpa⟩
  | install hReserved payload =>
    refine ⟨by rw [cell?_install hReserved, if_neg (hOther hReserved), hCell], ?_⟩
    rwa [Heap.install, size_setCell]
  | retain hObject =>
    refine ⟨?_, by simpa⟩
    rw [cell?_retain hObject, if_neg (hOther (object?_eq_some_iff.mp hObject)), hCell]
  | release hObject _ | last hObject =>
    refine ⟨?_, by simpa⟩
    rw [cell?_release hObject, if_neg (hOther (object?_eq_some_iff.mp hObject)), hCell]

/-- The object of an end was there, and its cell is vacated. -/
theorem Step.ended (step : heap.Step next ends) {entry : End} (hEntry : entry ∈ ends) :
    heap.object? entry.1 = some { retainCount := 1, payload := entry.2 } ∧
      next.Vacated entry.1 := by
  cases step with
  | last hObject =>
    obtain rfl := List.mem_singleton.mp hEntry
    refine ⟨hObject, ?_, ?_⟩
    · rw [cell?_release hObject, if_pos rfl, Object.afterRelease, if_pos (Nat.le_refl 1)]
    · simpa using lt_size_of_cell? (object?_eq_some_iff.mp hObject)
  | _ => cases hEntry

theorem Step.once (step : heap.Step next ends) : (ends.map (·.1)).Nodup := by
  cases step <;> simp

/-- An object goes on with its payload unless it comes to its end. -/
theorem Step.kept (step : heap.Step next ends) {address : Nat} {object : Object}
    (hLive : heap.object? address = some object) :
    (address, object.payload) ∈ ends ∨
      ∃ other, next.object? address = some other ∧ other.payload = object.payload := by
  cases step with
  | same => exact .inr ⟨object, hLive, rfl⟩
  | reserve nativeClass => exact .inr ⟨object, by rw [object?_reserve, hLive], rfl⟩
  | discard hReserved => exact .inr ⟨object, by rw [object?_discard hReserved, hLive], rfl⟩
  | @install other nativeClass hReserved payload =>
    have hOther : address ≠ other := by
      rintro rfl
      rw [object?_of_reserved hReserved] at hLive
      cases hLive
    exact .inr ⟨object, by rw [object?_install hReserved, if_neg hOther, hLive], rfl⟩
  | @retain other found hObject =>
    rw [object?_retain hObject]
    split
    next hSame =>
      obtain rfl : object = found := by simpa [hSame, hObject] using hLive.symm
      exact .inr ⟨_, rfl, rfl⟩
    next => exact .inr ⟨object, hLive, rfl⟩
  | @release other found hObject hMore =>
    rw [object?_release hObject]
    split
    next hSame =>
      obtain rfl : object = found := by simpa [hSame, hObject] using hLive.symm
      rw [if_neg (by omega)]
      exact .inr ⟨_, rfl, rfl⟩
    next => exact .inr ⟨object, hLive, rfl⟩
  | @last other payload hObject =>
    rw [object?_release hObject]
    split
    next hSame =>
      obtain rfl : object = ⟨1, payload⟩ := by simpa [hSame, hObject] using hLive.symm
      exact .inl (by rw [hSame]; exact List.mem_singleton_self _)
    next => exact .inr ⟨object, hLive, rfl⟩

end Heap

end Native

/-- Whether the record tells of ends and of nothing else: each tag in order, and each proxy once. -/
structure World.Records (start finish : World) (ends : List End) : Prop where
  destroyed : finish.destroyed = start.destroyed ++ ends.flatMap (·.2.tags)
  released : finish.log.count .setReleased =
    start.log.count .setReleased + ends.countP (·.2.isProxy)

namespace World.Records

theorem none {start finish : World} (hDestroyed : finish.destroyed = start.destroyed)
    (hLog : finish.log.count .setReleased = start.log.count .setReleased) :
    Records start finish [] :=
  ⟨by simpa using hDestroyed, by simpa using hLog⟩

/-- Records of steps in a row are told in order. -/
theorem trans {start middle finish : World} {first second : List End}
    (hFirst : Records start middle first) (hSecond : Records middle finish second) :
    Records start finish (first ++ second) where
  destroyed := by
    rw [hSecond.destroyed, hFirst.destroyed, List.flatMap_append, List.append_assoc]
  released := by
    rw [hSecond.released, hFirst.released, List.countP_append, Nat.add_assoc]

theorem destroy (address : Nat) (payload : Payload) (world : World) :
    Records world (world.destroy payload).2 [(address, payload)] := by
  cases payload <;>
    exact ⟨by simp [World.destroy, Native.Payload.tags, emit],
      by simp [World.destroy, Native.Payload.isProxy, emit]⟩

end World.Records

/-- One step of the world as far as native objects are concerned. -/
structure World.NativeStep (start finish : World) (ends : List End) : Prop where
  step : start.native.Step finish.native ends
  records : start.Records finish ends

namespace World.NativeStep

variable {world : World}

theorem same {finish : World} (hNative : finish.native = world.native)
    (hDestroyed : finish.destroyed = world.destroyed)
    (hLog : finish.log.count .setReleased = world.log.count .setReleased) :
    NativeStep world finish [] :=
  ⟨hNative ▸ .same, .none hDestroyed hLog⟩

/-- Dropping a reference is a release, and the payload of the last one is destroyed. -/
theorem dropNative {address : Nat} {object : Native.Object}
    (hObject : world.native.object? address = some object) (hLive : 0 < object.retainCount) :
    ∃ ends, NativeStep world (world.dropNative address).2 ends := by
  rcases Nat.lt_or_ge 1 object.retainCount with hMore | hLast
  · refine ⟨[], ?_, ?_⟩
    · rw [dropNative_native]
      exact .release hObject hMore
    · have hPayload := Native.Heap.release_fst hObject
      rw [if_neg (by omega)] at hPayload
      exact .none (by simp only [World.dropNative, hPayload])
        (by simp only [World.dropNative, hPayload])
  · obtain ⟨retainCount, payload⟩ := object
    obtain rfl : retainCount = 1 := Nat.le_antisymm hLast hLive
    refine ⟨[(address, payload)], ?_, ?_⟩
    · rw [dropNative_native]
      exact .last hObject
    · have hPayload := Native.Heap.release_fst hObject
      rw [if_pos hLast] at hPayload
      have hRecords := Records.destroy address payload
        { world with native := (world.native.release address).2 }
      have hDrop : (world.dropNative address).2 =
          (World.destroy payload { world with native := (world.native.release address).2 }).2 := by
        simp only [World.dropNative, hPayload]
      rw [hDrop]
      exact ⟨hRecords.destroyed, hRecords.released⟩

/-- The end of a wrapper drops the reference that its discipline gave it. -/
theorem dropHandle {owners : Multiset Holding} {discipline : Discipline} (handle : Handle)
    (hOwnership : handle.ownership = some discipline)
    (hOwned : world.native.OwnedBy (handle.holdings + owners)) :
    ∃ ends, NativeStep world (world.dropHandle discipline handle.pointer).2 ends := by
  have hNative (address : Nat) (hReference : handle.holdings = {.reference address}) :
      ∃ ends, NativeStep world (world.dropNative address).2 ends := by
    obtain ⟨object, hObject⟩ := hOwned.exists_object address (by simp [hReference])
    exact dropNative hObject (hOwned.alive address object hObject)
  rw [Handle.holdings, hOwnership] at hNative
  cases discipline <;> cases hPointer : handle.pointer <;> rw [hPointer] at hNative <;>
    first
    | exact hNative _ rfl
    | exact ⟨[], .same rfl rfl rfl⟩

/-- Giving up a host object is a step in which a handle may let the last reference go. -/
theorem reclaim {owners : Multiset Holding} {address : Nat} {object : Host.Object}
    (hObject : world.host.object? address = some object)
    (hOwned : world.native.OwnedBy (object.holdings + owners)) :
    ∃ ends, NativeStep world (world.reclaim address).2 ends := by
  have hView : world.host.view (.object address) = object := by
    simp [Host.Heap.view, hObject]
  unfold World.reclaim
  rw [hView]
  dsimp only
  split
  next typeId typeName pointer discipline hBody =>
    let freed : World :=
      (({ world with host := world.host.free address } : World).emit (.handleReleased typeId)).noteCall
        { discipline, request := .release, pointer }
    have hFreed : freed.native.OwnedBy
        (Handle.holdings ⟨typeId, typeName, pointer, some discipline⟩ + owners) := by
      simpa only [freed, emit, noteCall, Host.Object.holdings, hBody] using hOwned
    obtain ⟨ends, hStep, hRecords⟩ := dropHandle _ rfl hFreed
    exact ⟨ends, hStep, hRecords.destroyed, by simpa [freed, emit, noteCall] using hRecords.released⟩
  next => exact ⟨[], .same rfl rfl rfl⟩

end World.NativeStep

/-- Whatever the host changes, native objects end only by reaching a count of zero. -/
theorem Host.Change.nativeStep {before after : World} (change : Host.Change before after)
    {holdings : Multiset Holding} (hBalanced : Account.Balanced ⟨holdings, before⟩) :
    ∃ ends, before.NativeStep after ends := by
  cases change with
  | giveUp hLive _ =>
    obtain ⟨object, hObject⟩ := Option.isSome_iff_exists.mp hLive
    rw [Account.Balanced, Host.Heap.holdings_free hObject, add_left_comm] at hBalanced
    exact World.NativeStep.reclaim hObject hBalanced
  | _ => exact ⟨[], .same rfl rfl rfl⟩

/-- A move on balanced books is one step of the native heap. -/
theorem Move.nativeStep {may : Deed → Prop} {start finish : Account} (move : Move may start finish)
    (hBalanced : start.Balanced) : ∃ ends, start.world.NativeStep finish.world ends := by
  have hKeeps (address : Nat) := @Account.Balanced.exists_object_of_keeps _ address hBalanced
  unfold Account.Balanced at hBalanced
  cases move with
  | host change => exact change.nativeStep hBalanced
  | reserve nativeClass _ => exact ⟨[], .reserve nativeClass, .none rfl rfl⟩
  | discard address hHoldings =>
    obtain ⟨nativeClass, hCell⟩ := hBalanced.stored address (by simp [hHoldings])
    exact ⟨[], .discard hCell, .none rfl rfl⟩
  | install address payload hBefore _ =>
    obtain ⟨nativeClass, hCell⟩ := hBalanced.stored address (by simp [hBefore])
    exact ⟨[], .install hCell payload, .none rfl rfl⟩
  | retain address hKept _ =>
    obtain ⟨object, hObject⟩ := hKeeps address hKept
    exact ⟨[], .retain hObject, .none rfl rfl⟩
  | drop address hHoldings =>
    obtain ⟨object, hObject⟩ := hBalanced.exists_object address (by simp [hHoldings])
    exact World.NativeStep.dropNative hObject (hBalanced.alive address object hObject)
  | note events hEvents lastErrors returned =>
    refine ⟨[], .same rfl rfl ?_⟩
    rw [List.count_append, List.count_eq_zero.mpr hEvents, Nat.add_zero]
  | abandon _ _ | handle _ _ _ | register _ _ _ | builtins _ _ | poison _ | refusals _
  | startCursor _ | moveCursor _ _ _ => exact ⟨[], .same rfl rfl rfl⟩

/-- What becomes of native objects from one world to a later one, with the ends that they come to. -/
structure World.Outlives (start finish : World) (ends : List End) : Prop where
  once : (ends.map (·.1)).Nodup
  gone : ∀ entry ∈ ends, finish.native.Vacated entry.1
  kept : ∀ address object, start.native.object? address = some object →
    (address, object.payload) ∈ ends ∨
      ∃ other, finish.native.object? address = some other ∧ other.payload = object.payload
  vacated : ∀ address, start.native.Vacated address → finish.native.Vacated address
  records : start.Records finish ends

namespace World.Outlives

variable {start middle finish : World} {ends more : List End}

theorem refl (world : World) : Outlives world world [] where
  once := .nil
  gone := by simp
  kept _ object hLive := .inr ⟨object, hLive, rfl⟩
  vacated _ hVacated := hVacated
  records := .none rfl rfl

/-- One step more: an object that comes to its end in it was alive until then. -/
theorem snoc (hPrior : Outlives start middle ends) (hStep : NativeStep middle finish more) :
    Outlives start finish (ends ++ more) where
  once := by
    rw [List.map_append, List.nodup_append]
    refine ⟨hPrior.once, hStep.step.once, ?_⟩
    rintro address hFirst _ hSecond rfl
    obtain ⟨entry, hEntry, rfl⟩ := List.mem_map.mp hFirst
    obtain ⟨other, hOther, hSame⟩ := List.mem_map.mp hSecond
    have hLive := (hStep.step.ended hOther).1
    rw [hSame, Native.Heap.object?_of_vacant (hPrior.gone entry hEntry).1] at hLive
    cases hLive
  gone entry hEntry := by
    rcases List.mem_append.mp hEntry with hOld | hNew
    · exact hStep.step.vacated (hPrior.gone entry hOld)
    · exact (hStep.step.ended hNew).2
  kept address object hLive := by
    rcases hPrior.kept address object hLive with hEnd | ⟨other, hOther, hPayload⟩
    · exact .inl (List.mem_append.mpr (.inl hEnd))
    · rcases hStep.step.kept hOther with hEnd | ⟨next, hNext, hSame⟩
      · exact .inl (List.mem_append.mpr (.inr (hPayload ▸ hEnd)))
      · exact .inr ⟨next, hNext, hSame.trans hPayload⟩
  vacated address hVacated := hStep.step.vacated (hPrior.vacated address hVacated)
  records := hPrior.records.trans hStep.records

end World.Outlives

/-- The move in which an object comes to its end. It takes the last reference that is owned, and the
payload with it. -/
structure Account.Ends (may : Deed → Prop) (before after : Account) (entry : End) : Prop where
  move : Move may before after
  last : before.world.native.object? entry.1 = some { retainCount := 1, payload := entry.2 }
  ownedOnce : before.owners entry.1 = 1
  vacated : after.world.native.Vacated entry.1
  unowned : after.owners entry.1 = 0

/-- The lives of native objects over any number of moves, and the ends they come to in order. -/
structure Account.Lives (may : Deed → Prop) (start finish : Account) (ends : List End) : Prop where
  /-- No object ends twice. -/
  once : (ends.map (·.1)).Nodup
  /-- Each end is a move on the way. -/
  ended : ∀ entry ∈ ends, ∃ before after, Moves may start before ∧ before.Ends may after entry ∧
    Moves may after finish
  kept : ∀ address object, start.world.native.object? address = some object →
    (address, object.payload) ∈ ends ∨
      ∃ other, finish.world.native.object? address = some other ∧ other.payload = object.payload
  vacated : ∀ address, start.world.native.Vacated address → finish.world.native.Vacated address
  records : start.world.Records finish.world ends

/-- Nothing comes back to life at an address that was given up. -/
theorem Moves.vacated {may : Deed → Prop} {start finish : Account} (moves : Moves may start finish)
    (hBalanced : start.Balanced) {address : Nat} (hVacated : start.world.native.Vacated address) :
    finish.world.native.Vacated address := by
  induction moves with
  | refl => exact hVacated
  | step prior last ih =>
    obtain ⟨ends, hStep⟩ := last.nativeStep (prior.balanced hBalanced)
    exact hStep.step.vacated ih

/-- On balanced books every object has one life. -/
theorem Moves.lives {may : Deed → Prop} {start finish : Account} (moves : Moves may start finish)
    (hBalanced : start.Balanced) : ∃ ends, start.Lives may finish ends := by
  suffices hEnds : ∃ ends, start.world.Outlives finish.world ends ∧
      ∀ entry ∈ ends, ∃ before after, Moves may start before ∧ before.Ends may after entry ∧
        Moves may after finish by
    obtain ⟨ends, hOutlives, hEnded⟩ := hEnds
    exact ⟨ends, hOutlives.once, hEnded, hOutlives.kept, hOutlives.vacated, hOutlives.records⟩
  induction moves with
  | refl => exact ⟨[], .refl _, by simp⟩
  | @step middle finish prior last ih =>
    obtain ⟨ends, hPrior, hEnded⟩ := ih
    obtain ⟨more, hStep⟩ := last.nativeStep (prior.balanced hBalanced)
    refine ⟨ends ++ more, hPrior.snoc hStep, fun entry hEntry => ?_⟩
    rcases List.mem_append.mp hEntry with hOld | hNew
    · obtain ⟨before, after, hBefore, hEnds, hAfter⟩ := hEnded entry hOld
      exact ⟨before, after, hBefore, hEnds, .step hAfter last⟩
    · obtain ⟨hLast, hVacated⟩ := hStep.step.ended hNew
      have hMiddle := prior.balanced hBalanced
      have hOwned := hMiddle.retainCount_eq entry.1
      rw [Native.Heap.retainCount_of_object? hLast] at hOwned
      have hUnowned := (last.balanced hMiddle).owners_eq_zero
        (Native.Heap.object?_of_vacant hVacated.1)
      exact ⟨middle, finish, prior, ⟨last, hLast, hOwned.symm, hVacated, hUnowned⟩, .refl⟩

end HeapBridge
