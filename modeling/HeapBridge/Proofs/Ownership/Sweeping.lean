import HeapBridge.Proofs.Ownership.Conservation
/-!
Sweeping. After a command nothing is left in the host heap that nothing refers to. The main statement is
that the objects that live on after a command are all referred to, so an object is given up at the
latest in the command in which the last reference to it goes away.
-/
namespace HeapBridge

open Host (Ref)

namespace Host.Heap

theorem mem_addresses {heap : Heap} {address : Nat} :
    address ∈ heap.addresses ↔ heap.isLive (.object address) = true := by
  rw [addresses, List.mem_filter, List.mem_range, isLive, and_iff_right_iff_imp]
  intro hLive
  obtain ⟨object, hObject⟩ := Option.isSome_iff_exists.mp hLive
  exact lt_size_of_object? hObject

/-- One address less is in use when an object is given up. -/
theorem addresses_free (heap : Heap) (address : Nat) :
    (heap.free address).addresses = heap.addresses.filter (· ≠ address) := by
  have hSize : (heap.free address).cells.size = heap.cells.size := by simp [free]
  rw [addresses, addresses, List.filter_filter, hSize]
  refine List.filter_congr fun other _ => ?_
  rcases eq_or_ne address other with rfl | hOther
  · simp [object?_free_self]
  · simp [object?_free_of_ne hOther, hOther.symm]

theorem length_addresses_free {heap : Heap} {address : Nat}
    (hLive : heap.isLive (.object address) = true) :
    (heap.free address).addresses.length < heap.addresses.length := by
  rw [addresses_free, List.length_filter_lt_length_iff_exists]
  exact ⟨address, mem_addresses.mpr hLive, by simp⟩

end Host.Heap

namespace World

/-- Marks an address that is referred to. -/
private def marked (marks : Array Bool) (ref : Ref) : Array Bool :=
  match ref with
  | .atom _ => marks
  | .object address => marks.setIfInBounds address true

/-- Marking keeps the marks there are. -/
private theorem getD_marked (refs : List Ref) (marks : Array Bool) {address : Nat}
    (hIn : address < marks.size) :
    (refs.foldl marked marks).getD address false =
      (marks.getD address false || refs.contains (.object address)) := by
  induction refs generalizing marks with
  | nil => simp
  | cons ref rest ih =>
    rw [List.foldl_cons, List.contains_cons]
    cases ref with
    | atom value => rw [marked, ih marks hIn]; rfl
    | object other =>
      have hSize : address < (marks.setIfInBounds other true).size := by simpa using hIn
      rw [marked, ih _ hSize]
      rcases eq_or_ne other address with rfl | hOther
      · simp [Array.getD, hIn]
      · have hNot : (Ref.object address == Ref.object other) = false := by simpa using hOther.symm
        simp [Array.getD, hIn, Array.getElem_setIfInBounds_ne _ hOther, hNot]

/-- The unreferenced objects are those that live and that nothing refers to. -/
theorem mem_unreferenced {world : World} {ref : Ref} :
    ref ∈ world.unreferenced ↔
      ∃ address, ref = .object address ∧ Host.isAbandoned address world = true := by
  have hMarks {address : Nat} (hLive : world.host.isLive (.object address) = true) :
      (world.references.foldl marked (Array.replicate world.host.cells.size false)).getD address false =
        world.isReferenced (.object address) := by
    obtain ⟨object, hObject⟩ := Option.isSome_iff_exists.mp hLive
    have hIn := Host.Heap.lt_size_of_object? hObject
    rw [getD_marked _ _ (by simpa using hIn), isReferenced_eq]
    simp [Array.getD, hIn]
  unfold unreferenced
  simp only [List.mem_map, List.mem_filter, Host.Heap.mem_addresses, Host.isAbandoned]
  constructor
  · rintro ⟨address, ⟨hLive, hUnmarked⟩, rfl⟩
    refine ⟨address, rfl, ?_⟩
    rw [hLive, ← hMarks hLive]
    exact hUnmarked
  · rintro ⟨address, rfl, hAbandoned⟩
    rw [Bool.and_eq_true] at hAbandoned
    refine ⟨address, ⟨hAbandoned.1, ?_⟩, rfl⟩
    rw [← hMarks hAbandoned.1] at hAbandoned
    exact hAbandoned.2

end World

namespace Host

/-- Sweeping for as many steps as objects live leaves nothing behind that nothing refers to. -/
theorem unreferenced_sweep (steps : Nat) (world : World)
    (hSteps : world.host.addresses.length ≤ steps) : (sweep steps world).unreferenced = [] := by
  induction steps generalizing world with
  | zero =>
    rw [sweep]
    refine List.eq_nil_iff_forall_not_mem.mpr fun ref hRef => ?_
    obtain ⟨address, rfl, hAbandoned⟩ := World.mem_unreferenced.mp hRef
    have hLive := Heap.mem_addresses.mpr (Bool.and_eq_true _ _ ▸ hAbandoned).1
    rw [List.length_eq_zero_iff.mp (Nat.le_zero.mp hSteps)] at hLive
    cases hLive
  | succ steps ih =>
    unfold sweep
    split
    next address others hFirst =>
      have hMember : Ref.object address ∈ world.unreferenced := hFirst ▸ List.mem_cons_self
      obtain ⟨_, hSame, hAbandoned⟩ := World.mem_unreferenced.mp hMember
      obtain rfl := Ref.object.inj hSame
      rw [if_pos hAbandoned]
      refine ih _ (Nat.le_of_lt_succ (Nat.lt_of_lt_of_le ?_ hSteps))
      rw [World.reclaim_host]
      exact Heap.length_addresses_free (Bool.and_eq_true _ _ ▸ hAbandoned).1
    next hOther =>
      cases hList : world.unreferenced with
      | nil => rfl
      | cons ref others =>
        obtain ⟨address, rfl, _⟩ := World.mem_unreferenced.mp (hList ▸ List.mem_cons_self)
        exact (hOther address others hList).elim

end Host

/-- Whether every host object that lives is referred to. -/
def World.Swept (world : World) : Prop :=
  ∀ address, world.host.isLive (.object address) = true →
    world.isReferenced (.object address) = true

/-- After a settlement nothing lives on that nobody refers to. -/
theorem World.swept_settle (world : World) : world.settle.Swept := by
  obtain ⟨middle, hSettle⟩ : ∃ middle : World,
      world.settle = Host.sweep middle.host.cells.size middle := ⟨_, rfl⟩
  intro address hLive
  rw [hSettle] at hLive ⊢
  have hFew : middle.host.addresses.length ≤ middle.host.cells.size := by
    simpa [Host.Heap.addresses] using List.length_filter_le _ (List.range middle.host.cells.size)
  have hNone := Host.unreferenced_sweep _ middle hFew
  by_contra hUnreferenced
  refine List.not_mem_nil (a := Ref.object address) (hNone ▸ World.mem_unreferenced.mpr ?_)
  exact ⟨address, rfl, by simpa [Host.isAbandoned, hLive] using hUnreferenced⟩

namespace Host

/-- The heap never shrinks: addresses are not used anew. -/
theorem Change.size_cells {before after : World} (change : Change before after) :
    before.host.cells.size ≤ after.host.cells.size := by
  cases change with
  | allocate => simp [Heap.allocate]
  | put => simp [Heap.put]
  | giveUp => simp [World.reclaim_host, Heap.free]
  | _ => exact Nat.le_refl _

/-- No change revives an object. -/
theorem Change.isLive {before after : World} {address : Nat} (change : Change before after)
    (hKnown : address < before.host.cells.size)
    (hLive : after.host.isLive (.object address) = true) :
    before.host.isLive (.object address) = true := by
  cases change with
  | allocate new _ _ => rwa [Heap.isLive, Heap.object?_allocate_of_lt hKnown] at hLive
  | @put other old new hOld hNew =>
    rw [Heap.isLive, Heap.object?_put hOld] at hLive
    split at hLive
    next hSame => simp [Heap.isLive, hSame, hOld]
    next => exact hLive
  | @giveUp other _ _ =>
    rw [World.reclaim_host] at hLive
    rcases eq_or_ne other address with rfl | hOther
    · rw [Heap.isLive, Heap.object?_free_self] at hLive
      cases hLive
    · rwa [Heap.isLive, Heap.object?_free_of_ne hOther] at hLive
  | _ => exact hLive

theorem Changes.size_cells {before after : World} (changes : Changes before after) :
    before.host.cells.size ≤ after.host.cells.size := by
  induction changes with
  | refl => exact Nat.le_refl _
  | step _ last ih => exact ih.trans last.size_cells

/-- What has been given up is not there again. -/
theorem Changes.isLive {before after : World} {address : Nat} (changes : Changes before after)
    (hKnown : address < before.host.cells.size)
    (hLive : after.host.isLive (.object address) = true) :
    before.host.isLive (.object address) = true := by
  induction changes with
  | refl => exact hLive
  | step prior last ih => exact ih (last.isLive (hKnown.trans_le prior.size_cells) hLive)

theorem letGo_nil (ops : Ops) (context : Context) (steps : Nat) (world : World) :
    letGo ops context steps [] world = world := by
  cases steps <;> rfl

/-- An object that has not been given up is referred to. -/
theorem giveUp_of_isLive {address : Nat} {world : World}
    (hLive : (giveUp address world).2.host.isLive (.object address) = true) :
    giveUp address world = ([], world) ∧ world.isReferenced (.object address) = true := by
  unfold giveUp at hLive ⊢
  split at hLive
  next =>
    have hGone : (world.reclaim address).2.host.isLive (.object address) = false := by
      rw [World.reclaim_host, Heap.isLive, Heap.object?_free_self]
      rfl
    exact absurd (hGone.symm.trans hLive) Bool.false_ne_true
  next hKept =>
    rw [if_neg hKept]
    exact ⟨rfl, by simpa [isAbandoned, hLive] using hKept⟩

/-- An object that was let go lives on only if something refers to it. -/
theorem isReferenced_of_letGo (ops : Ops) (context : Context) (steps : Nat) {world : World}
    {address : Nat}
    (hLive : (letGo ops context (steps + 1) [.object address] world).host.isLive
      (.object address) = true) :
    (letGo ops context (steps + 1) [.object address] world).isReferenced (.object address) = true := by
  rw [letGo] at hLive ⊢
  dsimp only at hLive ⊢
  split at hLive
  next hAbandoned =>
    rw [if_pos hAbandoned]
    have hTold := (finalize ops address).changes context (world.unhold (.object address))
    have hGiveUp := changes_giveUp address
      ((finalize ops address).eval context (world.unhold (.object address))).2
    have hKnown : address < world.host.cells.size := by
      obtain ⟨object, hObject⟩ := Option.isSome_iff_exists.mp (Bool.and_eq_true _ _ ▸ hAbandoned).1
      exact Heap.lt_size_of_object? hObject
    have hLast := (changes_letGo ops context steps _ _).isLive
      (hKnown.trans_le (hTold.trans hGiveUp).size_cells) hLive
    obtain ⟨hNothing, hReferenced⟩ := giveUp_of_isLive hLast
    rw [hNothing, List.append_nil, letGo_nil]
    exact hReferenced
  next hKept =>
    rw [if_neg hKept, letGo_nil]
    rw [letGo_nil] at hLive
    simpa [isAbandoned, hLive] using hKept

end Host

/-- An object that is let go of is given up unless something refers to it. -/
theorem World.isReferenced_of_release {world : World} {address : Nat}
    (hLive : (world.release [.object address]).host.isLive (.object address) = true) :
    (world.release [.object address]).isReferenced (.object address) = true := by
  obtain ⟨ops, hOps⟩ : ∃ ops : Host.Ops, Host.ops = ops.above := ⟨.ofDepth 4999, rfl⟩
  obtain ⟨steps, hSteps⟩ := Host.exists_stepLimit
  have hRelease : world.release [.object address] =
      Host.letGo ops {} Host.stepLimit [.object address] (world.holdAll [.object address]) := by
    rw [World.release, hOps]
    rfl
  rw [hRelease, hSteps] at hLive ⊢
  exact Host.isReferenced_of_letGo _ _ _ hLive

/-- Whether an object of which a reference is let go of is given up at once unless something refers to it. -/
def World.Prompt (world : World) : Prop := ∀ address,
  (world.release [.object address]).host.isLive (.object address) = true →
    (world.release [.object address]).isReferenced (.object address) = true

theorem World.prompt (world : World) : world.Prompt := fun _ hLive => World.isReferenced_of_release hLive

/-- Settling lets go of what nothing refers to, and sweeps away what is left. -/
theorem World.exists_settle (world : World) : ∃ ops steps, world.settle = Host.sweep steps
    (Host.letGo ops {} Host.stepLimit (world.unreferenced.filter Ref.isObject)
      (world.holdAll (world.unreferenced.filter Ref.isObject))) := by
  have hSettle (ops : Host.Ops) : ∃ steps, (Host.HostM.runOn (Host.settle ops) world).2 =
      Host.sweep steps (Host.letGo ops {} Host.stepLimit (world.unreferenced.filter Ref.isObject)
        (world.holdAll (world.unreferenced.filter Ref.isObject))) := ⟨_, rfl⟩
  exact ⟨Host.ops, hSettle Host.ops⟩

/-- Where nothing is left to give up, settling changes nothing. -/
theorem World.Swept.settle {world : World} (hSwept : world.Swept) : world.settle = world := by
  have hNone : world.unreferenced = [] := by
    refine List.eq_nil_iff_forall_not_mem.mpr fun ref hRef => ?_
    obtain ⟨address, rfl, hAbandoned⟩ := World.mem_unreferenced.mp hRef
    rw [Host.isAbandoned, Bool.and_eq_true] at hAbandoned
    simp [hSwept address hAbandoned.1] at hAbandoned
  have hSweep : Host.sweep world.host.cells.size world = world := by
    cases world.host.cells.size with
    | zero => rfl
    | succ steps => rw [Host.sweep, hNone]
  have hLetGo (ops : Host.Ops) : Host.letGo ops {} Host.stepLimit [] (world.holdAll []) = world :=
    Host.letGo_nil ops {} Host.stepLimit world
  have hSettle (ops : Host.Ops) : (Host.HostM.runOn (Host.settle ops) world).2 =
      Host.sweep (Host.letGo ops {} Host.stepLimit (world.unreferenced.filter Ref.isObject)
          (world.holdAll (world.unreferenced.filter Ref.isObject))).host.cells.size
        (Host.letGo ops {} Host.stepLimit (world.unreferenced.filter Ref.isObject)
          (world.holdAll (world.unreferenced.filter Ref.isObject))) := rfl
  rw [World.settle, hSettle, hNone, List.filter_nil, hLetGo]
  exact hSweep

/-- After any command, whatever lives in the host heap is referred to. -/
theorem Session.swept_perform (command : Command) (session : Session) :
    (Session.perform command session).2.world.Swept :=
  World.swept_settle _

theorem World.swept_empty : ({} : World).Swept := by
  intro address hLive
  cases hLive

theorem Session.swept_performAll {session : Session} (hSwept : session.world.Swept)
    (commands : List Command) : (performAll commands session).2.world.Swept := by
  induction commands generalizing session with
  | nil => exact hSwept
  | cons command rest ih => exact ih (swept_perform command session)

end HeapBridge
