import HeapBridge.Proofs.Members.Using
/-!
Iterators over sets in use. An iterator that native code starts hands out all elements of the set, each in its
native form, and then nothing, as long as the set is not changed meanwhile.
-/
namespace HeapBridge

open Host (Ref SetTable)

variable {scene : Scene} {world before middle after : World} {proxy number position : Nat} {set other ref : Ref}
  {table : SetTable} {left rest : List Ref} {values : List NativeValue} {holdings : Multiset Holding}
  {cursor : Cursor} {cursors : Array Cursor} {may : Deed → Prop}

/-- An iterator that refers to one set goes over no other one. -/
theorem Cursor.over?_of_references (hCursor : cursor.references ⊆ [set]) (hOther : other ≠ set) :
    cursor.over? other = none := by
  cases cursor with
  | elements source position size broken =>
    have hSource : source = set := List.mem_singleton.mp (hCursor List.mem_cons_self)
    exact if_neg (hSource ▸ hOther.symm)
  | _ => rfl

namespace ForeignSet

/-- What an iterator hands out, one after the other. -/
inductive HandsOut (number : Nat) : World → List NativeValue → World → Prop where
  | nil (world : World) : HandsOut number world [] world
  | cons {before middle after : World} {value : NativeValue} {values : List NativeValue}
    (hNext : (nextValue number).run.run before = (.ok (some value), middle))
    (hRest : HandsOut number middle values after) : HandsOut number before (value :: values) after

end ForeignSet

namespace Scene

/-- It goes on if iterators over the set are started or moved. -/
theorem Uses.of_cursors (hUses : scene.Uses holdings proxy set table world) (hSet : set ∈ scene.sets)
    (hCursors : ∀ number, World.cursor number { world with cursors } = world.cursor number ∨
      (World.cursor number { world with cursors }).references ⊆ [set] ∧ (world.cursor number).references ⊆ [set])
    (hMoves : Moves may ⟨holdings, world⟩ ⟨holdings, { world with cursors }⟩) :
    scene.Uses holdings proxy set table { world with cursors } := by
  have hFollows := hUses.contains.follows
  have hLeaves : World.Leaves scene.sets world { world with cursors } := by
    refine ⟨rfl, Nat.le_refl _, fun _ _ _ => .inl rfl, fun other hOther number => ?_⟩
    have hDiffers : other ≠ set := fun hSame => hOther (hSame ▸ hSet)
    rcases hCursors number with hSame | ⟨hNew, hOld⟩
    · rw [hSame]
    · rw [Cursor.over?_of_references hNew hDiffers, Cursor.over?_of_references hOld hDiffers]
  have hThere : scene.Follows { world with cursors } := by
    refine hFollows.of_cursors hLeaves fun number ref hRef => ?_
    rcases hCursors number with hSame | ⟨hNew, _⟩
    · exact hFollows.whole ref (World.isReferenced_iff.mpr (.inr (.cursor number (hSame ▸ hRef))))
    · exact List.mem_singleton.mp (hNew hRef) ▸ hUses.contains.live
  refine ⟨⟨hThere, hUses.contains.live, hUses.contains.elements, fun ref hRef => ?_⟩, hUses.body,
    hMoves.balanced hUses.balanced, hUses.backing⟩
  obtain ⟨hLive, hItems⟩ := hUses.contains.concerns ref hRef
  refine ⟨hLive, ?_⟩
  rwa [Scene.origin_eq rfl]

/-- Whether native code goes over a set by an iterator that has these elements left. -/
structure Passes (scene : Scene) (holdings : Multiset Holding) (proxy : Nat) (set : Ref) (table : SetTable)
    (number : Nat) (left : List Ref) (world : World) : Prop where
  uses : scene.Uses holdings proxy set table world
  started : number < world.cursors.size
  cursor : ∃ position, world.cursor number = .elements set position table.size false ∧ table.remaining position = left

section Opens

variable (hOpens : scene.Opens) (hSet : set ∈ scene.sets)

include hSet

include hOpens in
/-- An iterator goes over the elements by itself. -/
theorem Uses.run_iterate (hUses : scene.Uses holdings proxy set table world) :
    (ForeignSet.iterate set).run.run world =
      (.ok world.cursors.size, (world.startCursor (.elements set 0 table.size false)).2) := by
  have hOwn : ForeignSet.ownElements? set world.host = some table := by
    rw [ForeignSet.ownElements?, (hUses.isPlain hOpens hSet).iterates]
    exact hUses.contains.elements
  rw [ForeignSet.iterate_eq, run_get, hOwn]
  rfl

include hOpens in
/-- An iterator that is started has all elements left. -/
theorem Uses.passes_iterate (hUses : scene.Uses holdings proxy set table world) :
    scene.Passes holdings proxy set table world.cursors.size table.toList
      (world.startCursor (.elements set 0 table.size false)).2 := by
  have hMoves := (ForeignSet.neutral_iterate set (fun _ => True) (.ofNative holdings) world).moves_of_run
    (hUses.run_iterate hOpens hSet)
  rw [onSuccess_zero, Prod.fst_zero, zero_add] at hMoves
  refine ⟨hUses.of_cursors hSet (fun number => ?_) hMoves, ?_, 0,
    World.cursor_startCursor_self _ _, SetTable.remaining_zero table⟩
  · rcases Nat.lt_trichotomy number world.cursors.size with hOld | rfl | hNever
    · exact .inl (World.cursor_startCursor_of_lt hOld _)
    · refine .inr ⟨?_, ?_⟩
      · have hNew := World.cursor_startCursor_self (.elements set 0 table.size false) world
        change (World.cursor world.cursors.size (world.startCursor (.elements set 0 table.size false)).2).references ⊆ _
        rw [hNew]
        exact List.Subset.refl _
      · rw [World.cursor, Array.getD_eq_getD_getElem?, Array.getElem?_eq_none (Nat.le_refl _)]
        exact List.nil_subset _
    · refine .inl ?_
      rw [World.cursor, World.cursor, Array.getD_eq_getD_getElem?, Array.getD_eq_getD_getElem?,
        Array.getElem?_eq_none (by rw [Array.size_push]; exact hNever), Array.getElem?_eq_none hNever.le]
  · change world.cursors.size < (world.cursors.push _).size
    rw [Array.size_push]
    exact Nat.lt_succ_self _

include hOpens in
theorem Uses.exists_iterate (hUses : scene.Uses holdings proxy set table world) :
    ∃ number after, (ForeignSet.iterate set).run.run world = (.ok number, after) ∧
      scene.Passes holdings proxy set table number table.toList after :=
  ⟨_, _, hUses.run_iterate hOpens hSet, hUses.passes_iterate hOpens hSet⟩

/-- A step hands out the first of the elements that are left, or tells that there are none. -/
theorem Passes.exists_nextValue (hPasses : scene.Passes holdings proxy set table number left world) :
    ∃ told after, (ForeignSet.nextValue number).run.run world = (.ok told, after) ∧
      match left with
      | [] => told = none
      | ref :: rest => ∃ value, told = some value ∧ value.StandsFor after ref ∧
        scene.Passes (value.holdings + holdings) proxy set table number rest after ∧
          ∀ (other : NativeValue) element, other.StandsFor world element → other.StandsFor after element := by
  obtain ⟨hUses, hStarted, position, hCursor, hLeft⟩ := hPasses
  have hNext := ForeignSet.run_next_elements hCursor hUses.contains.elements
  rcases table.step_eq position with ⟨hNone, hStep⟩ | ⟨next, ref, hRemaining, hStep⟩
  · rw [hStep] at hNext
    rw [hNone] at hLeft
    subst hLeft
    exact ⟨none, _, by rw [ForeignSet.nextValue_eq, run_bind, hNext]; rfl, rfl⟩
  · rw [hStep] at hNext
    rw [hRemaining] at hLeft
    subst hLeft
    have hRef : ref ∈ table.toList := SetTable.mem_of_step hStep
    have hMove : Move (fun _ => True) ⟨holdings, world⟩
        ⟨holdings, world.moveCursor number (.elements set next table.size false)⟩ := .moveCursor number _ trivial
    have hMoved := hUses.of_cursors hSet (fun other => ?_) hMove.toMoves
    obtain ⟨value, after, hYields, hStands⟩ :=
      ForeignSet.exists_elementValue hMoved.contains.follows.unrefused (hMoved.contains.mentions hRef)
    have hTransfers : Transfers (fun _ => True) (.ofNative holdings)
        (world.moveCursor number (.elements set next table.size false)) 0
        (ForeignSet.elementValue (some ref)) valueEstate := ForeignSet.transfers_elementValue (some ref)
    have hMoves := hTransfers.moves_of_run hYields.run
    have hGrown := hMoved.grows hYields.grows hMoves
    refine ⟨some value, after, by rw [ForeignSet.nextValue_eq, run_bind, hNext]; exact hYields.run, value, rfl, hStands,
      ⟨hGrown, ?_, next, ?_, rfl⟩, ?_⟩
    · rw [hYields.grows.cursors]
      exact (World.size_moveCursor _ _ _).symm ▸ hStarted
    · exact (World.cursor_congr hYields.grows.cursors number).trans (World.cursor_moveCursor_self hStarted _)
    · intro other element hOther
      have hThere : other.StandsFor (world.moveCursor number (.elements set next table.size false)) element :=
        hOther.given rfl rfl
      exact hThere.grows hYields.grows
    · by_cases hSame : number = other
      · subst hSame
        refine .inr ⟨?_, ?_⟩
        · exact (World.cursor_moveCursor_self hStarted _).symm ▸ List.Subset.refl [set]
        · rw [hCursor]
          exact List.Subset.refl _
      · exact .inl (World.cursor_moveCursor_of_ne hSame _)

/-- Whatever an iterator has handed out stands for elements, and it has as many fewer left. -/
theorem Passes.handsOut (hPasses : scene.Passes holdings proxy set table number left before)
    (hLeft : left ⊆ table.toList) (hHands : ForeignSet.HandsOut number before values after) :
    ∃ others rest, scene.Passes (others + holdings) proxy set table number rest after ∧
      values.length + rest.length = left.length ∧
        (∀ value ∈ values, ∃ ref ∈ table.toList, value.StandsFor after ref) ∧
          ∀ (other : NativeValue) element, other.StandsFor before element → other.StandsFor after element := by
  induction hHands generalizing holdings left with
  | nil world =>
    exact ⟨0, left, by rwa [zero_add], Nat.zero_add _, List.forall_mem_nil _, fun _ _ hOther => hOther⟩
  | @cons before middle after value values hNext _ ih =>
    obtain ⟨told, later, hRun, hTold⟩ := hPasses.exists_nextValue hSet
    obtain ⟨hSame, rfl⟩ : Except.ok (some value) = Except.ok told ∧ middle = later :=
      Prod.mk.inj (hNext.symm.trans hRun)
    cases hSame
    cases left with
    | nil => cases hTold
    | cons ref left =>
      obtain ⟨_, hValue, hStands, hMiddle, hKept⟩ := hTold
      cases hValue
      obtain ⟨others, rest, hAfter, hLength, hValues, hLater⟩ :=
        ih hMiddle fun other hOther => hLeft (List.mem_cons_of_mem ref hOther)
      refine ⟨others + value.holdings, rest, by rwa [add_assoc], ?_, fun other hOther => ?_,
        fun other element hOther => hLater other element (hKept other element hOther)⟩
      · rw [List.length_cons, List.length_cons, ← hLength, Nat.add_right_comm]
      · rcases List.mem_cons.mp hOther with rfl | hRest
        · exact ⟨ref, hLeft List.mem_cons_self, hLater _ ref hStands⟩
        · exact hValues other hRest

end Opens

end Scene

end HeapBridge
