import HeapBridge.Proofs.Scenes.Conduct
import HeapBridge.Proofs.Custody.Adoption
/-!
What keeps to a scene. Objects may be made and let go of, a set may get another table with elements that are
there, and iterators over the sets may be moved on. None of this reaches the other sets.
-/
namespace HeapBridge

open Host (Body Context Fault Heap HostM Object Ops Ref SetTable)

variable {scene : Scene} {world before after : World} {ref set : Ref} {refs : List Ref} {touched : Set Ref}
  {address : Nat}

namespace World

/-- No storage is reserved or refused when an object comes to its end. -/
theorem refusals_dropNative (address : Nat) (world : World) :
    (world.dropNative address).2.refusals = world.refusals := by
  unfold dropNative
  dsimp only
  split
  next payload _ => cases payload <;> rfl
  next => rfl

/-- Reclaiming an object does not change what storage there will be. -/
theorem refusals_reclaim (address : Nat) (world : World) :
    (world.reclaim address).2.refusals = world.refusals := by
  unfold reclaim
  dsimp only
  split
  next _ _ pointer discipline _ =>
    cases discipline <;> cases pointer <;> first | rfl | exact refusals_dropNative _ _
  next => rfl

end World

namespace Scene

/-- Whether a scene is followed on, where nothing but some objects is touched and no iterator is moved. -/
structure Keeps (scene : Scene) (touched : Set Ref) (before after : World) : Prop where
  follows : scene.Follows after
  leaves : World.Leaves touched before after
  cursors : after.cursors = before.cursors

theorem Keeps.refl (hFollows : scene.Follows world) : scene.Keeps touched world world :=
  ⟨hFollows, .refl world, rfl⟩

theorem Keeps.trans {middle : World} (hFirst : scene.Keeps touched before middle)
    (hSecond : scene.Keeps touched middle after) : scene.Keeps touched before after :=
  ⟨hSecond.follows, hFirst.leaves.trans hSecond.leaves, hSecond.cursors.trans hFirst.cursors⟩

theorem Keeps.mono {others : Set Ref} (hKeeps : scene.Keeps touched before after) (hTouched : touched ⊆ others) :
    scene.Keeps others before after := ⟨hKeeps.follows, hKeeps.leaves.mono hTouched, hKeeps.cursors⟩

namespace Follows

theorem keeps_undisturbed (hFollows : scene.Follows before) (hCalm : before.Undisturbed after) :
    scene.Keeps touched before after :=
  ⟨hFollows.undisturbed hCalm, hCalm.leaves, by rw [hCalm.aside]⟩

theorem keeps_holdAll (hFollows : scene.Follows world) (hRefs : ∀ ref ∈ refs, world.host.isLive ref = true) :
    scene.Keeps touched world (world.holdAll refs) :=
  ⟨hFollows.holdAll hRefs, .aside rfl rfl, rfl⟩

/-- The scene is followed on where things are only given up, if what is referred to is there still. -/
theorem keeps_shrunk (hFollows : scene.Follows before) (hShrinks : before.Shrinks after)
    (hCursors : after.cursors = before.cursors) (hRefusals : after.refusals = before.refusals)
    (hWhole : ∀ ref, after.isReferenced ref = true → after.host.isLive ref = true) :
    scene.Keeps touched before after := by
  refine ⟨?_, hShrinks.leaves hCursors, hCursors⟩
  apply hFollows.next (hFollows.leaves.trans (hShrinks.leaves hCursors))
  · intro set _ hLive
    have hBefore := hShrinks.isLive hLive
    have hLeaves : World.Leaves ∅ before after := hShrinks.leaves hCursors
    exact ⟨hBefore, .inl (hLeaves.view_eq (Set.notMem_empty set) hBefore hLive)⟩
  · intro address object _ hObject
    exact .inl (hShrinks.object address object hObject)
  · exact hWhole
  · rw [hRefusals]
    exact List.Subset.refl _

/-- An object that nothing refers to is given up. -/
theorem keeps_giveUp (hFollows : scene.Follows world) (hAbandoned : Host.isAbandoned address world = true) :
    scene.Keeps touched world (Host.giveUp address world).2 := by
  have hBoth := hAbandoned
  simp only [Host.isAbandoned, Bool.and_eq_true, Bool.not_eq_true'] at hBoth
  obtain ⟨hThere, hFree⟩ := hBoth
  obtain ⟨kept, hKept, hGiveUp⟩ : ∃ kept ⊆ (world.reclaim address).1,
      (Host.giveUp address world).2 = (world.reclaim address).2.holdAll kept := by
    rw [Host.giveUp, if_pos hAbandoned]
    exact ⟨_, List.filter_sublist.subset, rfl⟩
  rw [hGiveUp]
  have hShrinks : world.Shrinks ((world.reclaim address).2.holdAll kept) :=
    (World.Shrinks.reclaim address world).trans (World.shrinks_holdAll kept _)
  apply hFollows.keeps_shrunk hShrinks (World.cursors_registry_reclaim address world).1
    (World.refusals_reclaim address world)
  intro ref hReferenced
  have hBefore : world.isReferenced ref = true := by
    rw [World.isReferenced_iff] at hReferenced ⊢
    rcases hReferenced with hHeld | hMentions
    · rcases List.mem_append.mp hHeld with hNew | hOld
      · exact .inr (World.mentions_of_reclaim hThere (hKept hNew))
      · exact .inl (World.held_reclaim address world ▸ hOld)
    · exact .inr (hShrinks.mentions hMentions)
  have hLive := hFollows.whole ref hBefore
  change (world.reclaim address).2.host.isLive ref = true
  rw [World.reclaim_host]
  cases ref with
  | atom value => rfl
  | object other =>
    have hOther : address ≠ other := by
      rintro rfl
      rw [hBefore] at hFree
      cases hFree
    rwa [Heap.isLive, Heap.object?_free_of_ne hOther]

/-- So it is if it is told before. -/
theorem keeps_told (hFollows : scene.Follows world) (hGoverns : scene.Governs)
    (hAbandoned : Host.isAbandoned address world = true) (level : Nat) (context : Context) :
    scene.Keeps touched world
      (Host.giveUp address ((Host.finalize (.ofDepth level) address).eval context world).2).2 := by
  have hGone : scene.Keeps touched world (Host.giveUp address world).2 := hFollows.keeps_giveUp hAbandoned
  have hCalm := (hGoverns.ends world hFollows address hAbandoned level context).2
  exact hGone.trans (hGone.follows.keeps_undisturbed hCalm)

theorem keeps_unholdAll (hFollows : scene.Follows world) (refs : List Ref) :
    scene.Keeps touched world (world.unholdAll refs) := by
  induction refs generalizing world with
  | nil => exact .refl hFollows
  | cons ref rest ih =>
    have hFirst : scene.Keeps touched world (world.unhold ref) := ⟨hFollows.unhold ref, .aside rfl rfl, rfl⟩
    exact hFirst.trans (ih hFirst.follows)

/-- References are let go of, one after the other, with whatever goes then. -/
theorem keeps_letGo (hFollows : scene.Follows world) (hGoverns : scene.Governs) (level : Nat) (context : Context)
    (steps : Nat) (refs : List Ref) :
    scene.Keeps touched world (Host.letGo (.ofDepth level) context steps refs world) := by
  fun_induction Host.letGo (.ofDepth level) context steps refs world with
  | case1 refs world => exact hFollows.keeps_unholdAll refs
  | case2 => exact .refl hFollows
  | case3 steps value rest world ih =>
    have hFirst : scene.Keeps touched world (world.unhold (.atom value)) :=
      ⟨hFollows.unhold _, .aside rfl rfl, rfl⟩
    exact hFirst.trans (ih hFirst.follows)
  | case4 steps address rest world middle hAbandoned freed after hGiveUp ih =>
    have hFirst : scene.Keeps touched world middle := ⟨hFollows.unhold _, .aside rfl rfl, rfl⟩
    have hGone : scene.Keeps touched middle after := by
      have hTold : scene.Keeps touched middle _ :=
        hFirst.follows.keeps_told hGoverns hAbandoned level context
      rwa [hGiveUp] at hTold
    exact (hFirst.trans hGone).trans (ih hGone.follows)
  | case5 steps address rest world middle _ ih =>
    have hFirst : scene.Keeps touched world middle := ⟨hFollows.unhold _, .aside rfl rfl, rfl⟩
    exact hFirst.trans (ih hFirst.follows)

/-- Objects in flight are let go of. -/
theorem keeps_release (hFollows : scene.Follows world) (hGoverns : scene.Governs)
    (hRefs : ∀ ref ∈ refs, world.host.isLive ref = true) (level : Nat) (context : Context) :
    ∃ after, ((Ops.ofDepth level).release refs).eval context world = (.ok (), after) ∧
      scene.Keeps touched world after ∧ after.held.Perm world.held := by
  cases level with
  | zero => exact ⟨world, rfl, .refl hFollows, .refl _⟩
  | succ level =>
    have hHolds : scene.Keeps touched world (world.holdAll (refs.filter Ref.isObject)) :=
      hFollows.keeps_holdAll fun ref hRef => hRefs ref (List.mem_filter.mp hRef).1
    refine ⟨_, rfl, hHolds.trans (hHolds.follows.keeps_letGo hGoverns level context _ _), ?_⟩
    exact Host.held_letGo _ context Host.stepLimit _ _ (.refl _)

/-- What is released within a scene leaves everything that is touched alone. -/
theorem keeps_worldRelease (hFollows : scene.Follows world) (hGoverns : scene.Governs)
    (hRefs : ∀ ref ∈ refs, world.host.isLive ref = true) :
    scene.Keeps touched world (world.release refs) ∧ (world.release refs).held.Perm world.held := by
  obtain ⟨after, hRelease, hKeeps, hHeld⟩ : ∃ after, (Host.ops.release refs).eval {} world = (.ok (), after) ∧
      scene.Keeps touched world after ∧ after.held.Perm world.held :=
    hFollows.keeps_release hGoverns hRefs Host.depthLimit {}
  rw [World.release, HostM.runOn, hRelease]
  exact ⟨hKeeps, hHeld⟩

/-- A reference that is held is given back. -/
theorem keeps_giveBack (hFollows : scene.Follows world) (hGoverns : scene.Governs)
    (hLive : world.host.isLive ref = true) :
    scene.Keeps touched world (world.letGo ref) ∧ (world.letGo ref).held.Perm (world.held.erase ref) := by
  have hFirst : scene.Keeps touched world (world.unhold ref) := ⟨hFollows.unhold ref, .aside rfl rfl, rfl⟩
  have hRefs : ∀ other ∈ [ref], (world.unhold ref).host.isLive other = true := by
    intro other hOther
    rw [List.mem_singleton.mp hOther]
    exact hLive
  obtain ⟨hKeeps, hHeld⟩ := hFirst.follows.keeps_worldRelease hGoverns hRefs
  exact ⟨hFirst.trans hKeeps, hHeld⟩

/-- A reference to a native object is given back. -/
theorem keeps_releaseNative (hFollows : scene.Follows world) (hGoverns : scene.Governs) (address : Nat) :
    scene.Keeps touched world (world.releaseNative address) := by
  have hShrinks := World.Shrinks.dropNative address world
  obtain ⟨hHeld, hCursors, _⟩ := World.aside_dropNative address world
  have hHost := World.dropNative_host address world
  have hDropped : scene.Keeps touched world (world.dropNative address).2 := by
    apply hFollows.keeps_shrunk hShrinks hCursors (World.refusals_dropNative address world)
    intro ref hReferenced
    rw [hHost]
    apply hFollows.whole ref
    rw [World.isReferenced_iff, hHeld] at hReferenced
    exact World.isReferenced_iff.mpr (hReferenced.imp_right hShrinks.mentions)
  have hFreed : ∀ ref ∈ (world.dropNative address).1, (world.dropNative address).2.host.isLive ref = true := by
    intro ref hRef
    rw [hHost]
    exact hFollows.whole ref (World.isReferenced_iff.mpr (.inr (World.mentions_of_dropNative hRef)))
  exact hDropped.trans (hDropped.follows.keeps_worldRelease hGoverns hFreed).1

end Follows

/-! What is made. -/

/-- What a new value of a built-in type is known by. -/
def originOf (body : Body) : Origin :=
  match Heap.atom? body with
  | some value => .known (.atom value)
  | none => .made body

/-- What the making of a value comes to. -/
structure Makes (scene : Scene) (before : World) (body : Body) (ref : Ref) (after : World) : Prop where
  keeps : scene.Keeps ∅ before after
  live : after.host.isLive ref = true
  origin : scene.origin after ref = originOf body
  /-- What was there is what it was, -/
  stays : ∀ other, before.host.isLive other = true → after.host.view other = before.host.view other
  remains : ∀ other, before.host.isLive other = true → after.host.isLive other = true
  /-- and is not what was made, unless this is one of a kind. -/
  apart : ∀ other, before.host.isLive other = true → other = ref → ∃ value, ref = .atom value
  held : after.held = before.held

namespace Follows

/-- An object of a built-in type is put at a new address. -/
theorem makes_allocate (hFollows : scene.Follows world) (hOpens : scene.Opens) {body : Body}
    (hRefs : ∀ ref ∈ body.references, world.host.isLive ref = true) (hAtom : Heap.atom? body = none) :
    scene.Makes world body (.object world.host.cells.size)
      { world with host := (world.host.allocate { body }).2 } := by
  have hNew (address : Nat) := Heap.object?_allocate world.host { body } address
  have hOld {address : Nat} (hThere : address < world.host.cells.size) :
      (world.host.allocate { body }).2.object? address = world.host.object? address :=
    Heap.object?_allocate_of_lt hThere
  have hStays (ref : Ref) (hLive : world.host.isLive ref = true) :
      (world.host.allocate { body }).2.view ref = world.host.view ref ∧
        (world.host.allocate { body }).2.isLive ref = true := by
    cases ref with
    | atom value => exact ⟨rfl, rfl⟩
    | object address =>
      obtain ⟨object, hObject⟩ := Option.isSome_iff_exists.mp hLive
      rw [Heap.view, Heap.view, Heap.isLive, hOld (Heap.lt_size_of_object? hObject)]
      exact ⟨rfl, hLive⟩
  have hFresh := Heap.object?_allocate_self world.host { body }
  have hLeaves {touched : Set Ref} :
      World.Leaves touched world { world with host := (world.host.allocate { body }).2 } := by
    refine ⟨rfl, ?_, fun address hThere _ => .inl (hOld hThere), fun _ _ _ => rfl⟩
    change world.host.cells.size ≤ (world.host.cells.push _).size
    rw [Array.size_push]
    exact Nat.le_succ _
  refine ⟨⟨hFollows.next (hFollows.leaves.trans hLeaves) ?_ ?_ ?_ (List.Subset.refl _), hLeaves, rfl⟩, ?_, ?_,
    fun ref hLive => (hStays ref hLive).1, fun ref hLive => (hStays ref hLive).2, ?_, rfl⟩
  · intro set hSet hLive
    obtain ⟨address, hThere, rfl⟩ := hOpens.exists_address hSet
    have hSame := hOld (hThere.trans_le hFollows.leaves.size)
    have hBefore : world.host.isLive (.object address) = true := by
      rw [Heap.isLive, ← hSame]
      exact hLive
    exact ⟨hBefore, .inl (hStays _ hBefore).1⟩
  · intro address object _ hObject
    rw [hNew] at hObject
    split at hObject
    · cases hObject
      exact .inr rfl
    · exact .inl hObject
  · intro ref hReferenced
    suffices hBefore : world.host.isLive ref = true from (hStays ref hBefore).2
    have hThere (hMentions : world.Mentions ref) : world.host.isLive ref = true :=
      hFollows.whole ref (World.isReferenced_iff.mpr (.inr hMentions))
    rcases World.isReferenced_iff.mp hReferenced with hHeld | hMentions
    · exact hFollows.isLive_of_held hHeld
    · rcases World.Mentions.cases rfl hMentions with hBefore | ⟨address, object, hObject, hRef⟩
      · exact hThere hBefore
      · rw [hNew] at hObject
        split at hObject
        · cases hObject
          exact hRefs ref hRef
        · exact hThere (.object hObject hRef)
  · exact Option.isSome_iff_exists.mpr ⟨_, hFresh⟩
  · rw [origin_of_new hFollows.leaves.size, originOf, hAtom]
    exact congrArg (fun object => Origin.made object.body) (Heap.view_of_object? hFresh)
  · rintro _ hLive rfl
    obtain ⟨object, hObject⟩ := Option.isSome_iff_exists.mp hLive
    exact absurd (Heap.lt_size_of_object? hObject) (Nat.lt_irrefl _)

/-- A value of a built-in type is made. -/
theorem makes_make (hFollows : scene.Follows world) (hOpens : scene.Opens) {body : Body}
    (hRefs : ∀ ref ∈ body.references, world.host.isLive ref = true) :
    scene.Makes world body (world.host.make body).1 { world with host := (world.host.make body).2 } := by
  unfold Heap.make
  cases hAtom : Heap.atom? body with
  | some value =>
    exact ⟨.refl hFollows, rfl, by rw [originOf, hAtom]; rfl, fun _ _ => rfl,
      fun _ hLive => hLive, fun _ _ _ => ⟨value, rfl⟩, rfl⟩
  | none => exact hFollows.makes_allocate hOpens hRefs hAtom

/-- One of the sets, or what was made meanwhile, goes on with another body. -/
theorem keeps_setBody (hFollows : scene.Follows world) {object : Object} {body : Body}
    (hObject : world.host.object? address = some object) (hBecomes : object.body.canBecome body = true)
    (hRefs : ∀ ref ∈ body.references, world.host.isLive ref = true)
    (hWhere : .object address ∈ scene.sets ∨ scene.start.host.cells.size ≤ address) :
    scene.Keeps {.object address} world { world with host := world.host.setBody (.object address) body } ∧
      (world.host.setBody (.object address) body).view (.object address) = { object with body } ∧
        ∀ ref, (world.host.setBody (.object address) body).isLive ref = world.host.isLive ref := by
  have hSet : world.host.setBody (.object address) body = world.host.put address { object with body } := by
    simp only [Heap.setBody, hObject, if_pos hBecomes]
  rw [hSet]
  have hNew := Heap.object?_put hObject { object with body }
  have hView : (world.host.put address { object with body }).view (.object address) = { object with body } :=
    Heap.view_of_object? (by rw [hNew, if_pos rfl])
  have hStays (ref : Ref) : (world.host.put address { object with body }).isLive ref = world.host.isLive ref := by
    cases ref with
    | atom value => rfl
    | object other =>
      rw [Heap.isLive, hNew, Heap.isLive]
      split
      next hSame => rw [hSame, hObject]; rfl
      next => rfl
  have hLeaves : World.Leaves {.object address} world
      { world with host := world.host.put address { object with body } } := by
    refine ⟨rfl, (Array.size_setIfInBounds ..).ge, fun other _ hOther => .inl ?_, fun _ _ _ => rfl⟩
    have hNe : other ≠ address := fun hSame => hOther (congrArg Ref.object hSame)
    change (world.host.put _ _).object? other = _
    rw [hNew, if_neg hNe]
  refine ⟨⟨?_, hLeaves, rfl⟩, hView, hStays⟩
  apply hFollows.next (hFollows.leaves.later hLeaves rfl ?_) ?_ ?_ ?_ (List.Subset.refl _)
  · intro other hOther
    obtain rfl : other = address := Ref.object.inj hOther
    exact hWhere
  · intro set hThere hLive
    rw [hStays] at hLive
    refine ⟨hLive, ?_⟩
    by_cases hSame : set = .object address
    · subst hSame
      obtain ⟨old, hOld⟩ := hFollows.exists_table hThere hLive
      have hBefore : world.host.view (.object address) = object := Heap.view_of_object? hObject
      rw [Heap.body, hBefore] at hOld
      rw [hOld] at hBecomes
      cases body with
      | set table => exact .inr ⟨table, by rw [hBefore]; exact hView⟩
      | _ => cases hBecomes
    · exact .inl (hLeaves.view_eq hSame hLive (by rw [hStays]; exact hLive))
  · intro other found hLater hFound
    change (world.host.put address _).object? other = some found at hFound
    rw [hNew] at hFound
    split at hFound
    next hSame =>
      subst hSame
      cases hFound
      have hPlain := hFollows.made other object hLater hObject
      exact .inr (by rw [hPlain])
    next => exact .inl hFound
  · intro ref hReferenced
    rw [hStays]
    have hThere (hMentions : world.Mentions ref) : world.host.isLive ref = true :=
      hFollows.whole ref (World.isReferenced_iff.mpr (.inr hMentions))
    rcases World.isReferenced_iff.mp hReferenced with hHeld | hMentions
    · exact hFollows.isLive_of_held hHeld
    · rcases World.Mentions.cases rfl hMentions with hBefore | ⟨other, owner, hOwner, hRef⟩
      · exact hThere hBefore
      · change (world.host.put address _).object? _ = some _ at hOwner
        rw [hNew] at hOwner
        split at hOwner
        · cases hOwner
          rcases List.mem_append.mp hRef with hAttribute | hBody
          · exact hThere (.object hObject (List.mem_append_left _ hAttribute))
          · exact hRefs ref hBody
        · exact hThere (.object hOwner hRef)

/-- One of the sets gets another table. -/
theorem keeps_setTable (hFollows : scene.Follows world) (hSet : set ∈ scene.sets)
    (hLive : world.host.isLive set = true) {table : SetTable}
    (hElements : ∀ ref ∈ table.toList, world.host.isLive ref = true) :
    scene.Keeps {set} world { world with host := world.host.setBody set (.set table) } ∧
      (world.host.setBody set (.set table)).body set = .set table ∧
        ∀ ref, (world.host.setBody set (.set table)).isLive ref = world.host.isLive ref := by
  obtain ⟨old, hBody⟩ := hFollows.exists_table hSet hLive
  cases set with
  | atom value => cases value <;> cases hBody
  | object address =>
    obtain ⟨object, hObject⟩ := Option.isSome_iff_exists.mp hLive
    rw [Heap.body, Heap.view_of_object? hObject] at hBody
    have hBecomes : object.body.canBecome (.set table) = true := by rw [hBody]; rfl
    obtain ⟨hKeeps, hView, hStays⟩ := hFollows.keeps_setBody hObject hBecomes hElements (.inl hSet)
    exact ⟨hKeeps, by rw [Heap.body, hView], hStays⟩

/-- The iterators are others, or stand elsewhere. -/
theorem of_cursors (hFollows : scene.Follows world) {cursors : Array Cursor}
    (hLeaves : World.Leaves scene.sets world { world with cursors })
    (hRefs : ∀ number, ∀ ref ∈ (World.cursor number { world with cursors }).references,
      world.host.isLive ref = true) : scene.Follows { world with cursors } := by
  apply hFollows.next (hFollows.leaves.trans hLeaves)
  · exact fun set _ hLive => ⟨hLive, .inl rfl⟩
  · exact fun address object _ hObject => .inl hObject
  · intro ref hReferenced
    have hThere (hMentions : world.Mentions ref) : world.host.isLive ref = true :=
      hFollows.whole ref (World.isReferenced_iff.mpr (.inr hMentions))
    rcases World.isReferenced_iff.mp hReferenced with
      hHeld | ⟨hOwner, hRef⟩ | ⟨number, hRef⟩ | hRef | ⟨hOwner, hRef⟩ | ⟨hScript, hRef⟩
    · exact hFollows.isLive_of_held hHeld
    · exact hThere (.proxy hOwner hRef)
    · exact hRefs number ref hRef
    · exact hThere (.converter hRef)
    · exact hThere (.object hOwner hRef)
    · exact hThere (.script hScript hRef)
  · exact List.Subset.refl _

end Follows

end Scene

theorem World.head?_refusals (hUnrefused : true ∉ world.refusals) : world.refusals.head? ≠ some true :=
  fun hRefused => hUnrefused (List.mem_of_mem_head? hRefused)

namespace ForeignSet

/-- A proxy is made, for which storage is not refused. -/
theorem exists_create (hGranted : world.refusals.head? ≠ some true) (value : Ref) :
    ∃ after, (create value).run.run world = (.ok world.native.cells.size, after) ∧
      after.host = world.host ∧ after.held = world.held.erase value ∧ after.cursors = world.cursors ∧
        after.registry = world.registry ∧ after.refusals ⊆ world.refusals ∧
          ∀ address, after.native.object? address =
            if address = world.native.cells.size then some ⟨1, .foreignSet value⟩
            else world.native.object? address := by
  have hReserve : world.reserve .foreignSet = (some world.native.cells.size,
      { world with native := (world.native.reserve .foreignSet).2, refusals := world.refusals.tail }) := by
    unfold World.reserve
    split
    next hRefused => exact absurd (hRefused ▸ List.head?_cons) hGranted
    next => rfl
  rw [run_create, hReserve]
  refine ⟨_, rfl, rfl, rfl, rfl, rfl, List.tail_subset _, fun address => ?_⟩
  have hCell : (world.native.reserve .foreignSet).2.cell? world.native.cells.size =
      some (.reserved .foreignSet) := by
    rw [Native.Heap.cell?_reserve, if_pos rfl]
  change ((world.native.reserve .foreignSet).2.install _ _).object? address = _
  rw [Native.Heap.object?_install hCell, Native.Heap.object?_reserve]

end ForeignSet

/-- A scene is followed on when a proxy of an object is made that is held. -/
theorem Scene.Follows.exists_create (hFollows : scene.Follows world) (hHeld : ref ∈ world.held) (touched : Set Ref) :
    ∃ after, (ForeignSet.create ref).run.run world = (.ok world.native.cells.size, after) ∧
      scene.Keeps touched world after ∧ after.held = world.held.erase ref ∧
        after.native.backing? world.native.cells.size = some ref := by
  obtain ⟨after, hCreate, hHost, hLeft, hCursors, hRegistry, hRefusals, hNative⟩ :=
    ForeignSet.exists_create (World.head?_refusals hFollows.unrefused) ref
  have hLeaves {touched : Set Ref} : World.Leaves touched world after := .aside hHost hCursors
  refine ⟨after, hCreate, ⟨?_, hLeaves, hCursors⟩, hLeft, ?_⟩
  · apply hFollows.next (hFollows.leaves.trans hLeaves)
    · exact fun set _ hLive => ⟨hHost ▸ hLive, .inl (by rw [hHost])⟩
    · exact fun address object _ hObject => .inl (hHost ▸ hObject)
    · intro other hReferenced
      rw [hHost]
      have hThere (hMentions : world.Mentions other) : world.host.isLive other = true :=
        hFollows.whole other (World.isReferenced_iff.mpr (.inr hMentions))
      rcases World.isReferenced_iff.mp hReferenced with
        hOther | ⟨hOwner, hRef⟩ | ⟨number, hRef⟩ | hRef | ⟨hOwner, hRef⟩ | ⟨hScript, hRef⟩
      · exact hFollows.isLive_of_held (List.mem_of_mem_erase (hLeft ▸ hOther))
      · rw [hNative] at hOwner
        split at hOwner
        · cases hOwner
          rw [List.mem_singleton.mp hRef]
          exact hFollows.isLive_of_held hHeld
        · exact hThere (.proxy hOwner hRef)
      · exact hThere (.cursor number (World.cursor_congr hCursors number ▸ hRef))
      · exact hThere (.converter (hRegistry ▸ hRef))
      · exact hThere (.object (hHost ▸ hOwner) hRef)
      · exact hThere (.script (hHost ▸ hScript) hRef)
    · exact hRefusals
  · rw [Native.Heap.backing?, hNative, if_pos rfl]

end HeapBridge
