import HeapBridge.Proofs.Evaluating
import HeapBridge.Proofs.Sets.Items
/-!
Hashing and comparing items. Items are hashed and compared without anything being changed, and they are the
same for the host just if they have the same content.
-/
namespace HeapBridge.Host

open scoped Classical

variable {host : Heap} {context : Context} {depth level : Nat} {a b ref held : Ref} {table : SetTable}

namespace Heap

theorem IsBuiltin.scripted? (hBuiltin : host.IsBuiltin ref) (method : String) :
    host.scripted? ref method = none := by
  rw [Heap.scripted?, script?, hBuiltin.script]
  rfl

/-- The heap refers to what an object in it refers to. -/
theorem refersTo_of_mem (hLive : host.isLive ref = true) (hHeld : held ∈ (host.body ref).references) :
    host.refersTo held = true := by
  cases ref with
  | atom value => cases value <;> cases hHeld
  | object address =>
    obtain ⟨object, hObject⟩ := Option.isSome_iff_exists.mp hLive
    have hIn := lt_size_of_object? hObject
    have hCell : host.cells[address] = some object := by
      rw [object?, Array.getElem?_eq_getElem hIn] at hObject
      exact hObject
    have hAny : (host.cells.any fun cell =>
        cell.any fun object => object.references.contains held) = true := by
      refine Array.any_eq_true.mpr ⟨address, hIn, ?_⟩
      rw [hCell, Option.any_some, List.contains_iff_mem, Object.references]
      rw [body, view_of_object? hObject] at hHeld
      exact List.mem_append_right _ hHeld
    rw [refersTo, hAny, Bool.true_or]

end Heap

/-- The heap refers to the elements of sets. -/
theorem refersTo_of_element (hLive : host.isLive a = true)
    (hTable : (host.body a).elements? = some table) (hElement : ref ∈ table.toList) :
    host.refersTo ref = true := by
  refine Heap.refersTo_of_mem hLive ?_
  revert hTable
  cases host.body a <;> simp +contextual [Body.elements?, Body.references, hElement]

/-! Hashing. -/

/-- Hashes are asked for one after the other. -/
theorem answers_hashAll {hash : Ref → HostM Int} {hashOf : Ref → Int} {items : List Ref}
    (hItems : ∀ item ∈ items, (hash item).Answers context host (hashOf item)) :
    (hashAll hash items).Answers context host (items.map hashOf) := by
  induction items with
  | nil => exact .pure
  | cons item rest ih =>
    exact .bind (hItems item List.mem_cons_self)
      (.bind (ih fun other hOther => hItems other (List.mem_cons_of_mem _ hOther)) .pure)

/-- Scalars are hashed without asking anyone. -/
theorem answers_builtinHash_scalar {ops : Ops} (hScalar : (host.body ref).isScalar = true) :
    (builtinHash ops ref).Answers context host ((host.body ref).scalarHash ref) := by
  refine .bind .bodyOf ?_
  cases hBody : host.body ref with
  | bool value =>
    have hHash : (Body.bool value).scalarHash ref = if value then 1 else 0 := by
      cases value <;> rfl
    rw [hHash]
    exact .pure
  | int value =>
    have hHash : (Body.int value).scalarHash ref = Binary64.hashInt value :=
      congrArg (fun hash => Option.getD hash (identityHash ref)) (Binary64.hash?_ofInt value)
    rw [hHash]
    exact .pure
  | float bits =>
    have hHash : (Body.float bits).scalarHash ref =
        (Binary64.hash? bits).getD (identityHash ref) :=
      congrArg (fun hash => Option.getD hash (identityHash ref)) (Binary64.hash?_eq bits).symm
    rw [hHash]
    exact .pure
  | text | bytes => exact .pure
  | nil | plain | notImplemented | type =>
    change HostM.Answers _ _ _ (Option.getD none (identityHash ref))
    rw [Option.getD_none]
    exact .pure
  | _ =>
    rw [hBody] at hScalar
    cases hScalar

/-- Items are hashed by what they hold. -/
theorem answers_hash (hItem : host.IsItem depth ref) (hLevel : depth ≤ level) :
    ((Ops.ofDepth level).hash ref).Answers context host (host.hashAs depth ref) := by
  induction depth generalizing level ref with
  | zero => exact hItem.elim
  | succ depth ih =>
    obtain ⟨level, rfl⟩ : ∃ lower, level = lower + 1 := ⟨level - 1, by omega⟩
    have hScript : (host.script? ref).any Script.isUnhashable = false := by
      rw [Heap.script?, hItem.isBuiltin.script]
      rfl
    change (hash (Ops.ofDepth level) ref).Answers context host _
    refine .bind (.scripted? (hItem.isBuiltin.scripted? "__hash__")) (.bind .heap ?_)
    rw [hScript, if_neg Bool.false_ne_true]
    cases hItem.form with
    | scalar hScalar _ hHash =>
      rw [hHash]
      exact answers_builtinHash_scalar hScalar
    | tuple items hBody hItems _ hHash =>
      rw [hHash]
      refine .bind .bodyOf ?_
      rw [hBody]
      exact .bind (answers_hashAll fun item hIn => ih (hItems item hIn) (by omega)) .pure
    | frozen table hBody _ _ hHash =>
      rw [hHash]
      refine .bind .bodyOf ?_
      rw [hBody]
      exact .pure

/-! Searching. -/

/-- Comparing objects that the heap refers to leaves no trace of keeping them. -/
theorem answers_keepingBoth {action : HostM Bool} {answer : Bool}
    (hA : host.refersTo a = true) (hB : host.refersTo b = true)
    (hAction : action.Answers context host answer) :
    (keepingBoth (Ops.ofDepth level) a b action).Answers context host answer := by
  refine .bind .heap ?_
  split
  · exact hAction
  · refine .keeping (fun ref hRef _ => ?_) hAction
    rcases List.mem_pair.mp hRef with rfl | rfl
    · exact hA
    · exact hB

/-- Entries of one hash are told apart by equality. -/
theorem answers_matching {answer : Bool} (hItem : host.refersTo a = true)
    (hSame : (same (Ops.ofDepth level) a b).Answers context host answer) :
    (matching (Ops.ofDepth level) a b).Answers context host answer := by
  refine .bind .heap ?_
  split
  · exact hSame
  · refine .keeping (fun ref hRef _ => ?_) (.holding hSame)
    rw [List.mem_singleton.mp hRef]
    exact hItem

namespace SetObject

variable {ops : Ops} {set key : Ref} {hash : Int} {isSame : Ref → Bool}

theorem answers_table (hTable : (host.body set).elements? = some table) :
    (SetObject.table set).Answers context host table := by
  refine .bind .bodyOf ?_
  rw [hTable]
  exact .pure

/-- An element is looked for as in a table that does not change. -/
theorem answers_locateAlong (hTable : (host.body set).elements? = some table)
    (hMatch : ∀ ref, (hash, ref) ∈ table.entries →
      (matching ops ref key).Answers context host (isSame ref))
    (hSelf : isSame key = true) (adding : Bool) (again : SetTable → HostM Place) (steps : Nat)
    (probe : Probe) (reusable : Option Nat) :
    (locateAlong ops set key hash adding again steps probe reusable).Answers context host
      (table.search hash isSame steps probe reusable) := by
  induction steps generalizing probe reusable with
  | zero => exact .pure
  | succ steps ih =>
    rw [locateAlong, SetTable.search]
    refine .bind (answers_table hTable) ?_
    cases hSeek : table.seek hash probe reusable with
    | free index reusable => exact .pure
    | candidate index ref rest reusable =>
      dsimp only
      split
      next hKey =>
        rw [hKey, hSelf]
        exact .pure
      next =>
        have hSlot := SetTable.slot_of_seek hSeek
        have hStill : (table.isSamePlace table && table.at? index = some ref) = true := by
          simp [SetTable.isSamePlace, SetTable.at?, hSlot, SetSlot.element?]
        refine .bind (hMatch ref (SetTable.mem_entries_of_slot hSlot)) (.bind (answers_table hTable) ?_)
        rw [hStill]
        cases isSame ref with
        | true =>
          simp only [Bool.or_true, Bool.and_true, if_true]
          exact .pure
        | false =>
          simp only [Bool.false_and, Bool.false_eq_true, if_false, if_true]
          exact ih rest reusable

/-- The search comes to where the plain search of the table does. -/
theorem answers_locate (hTable : (host.body set).elements? = some table)
    (hMatch : ∀ ref, (hash, ref) ∈ table.entries →
      (matching ops ref key).Answers context host (isSame ref))
    (hSelf : isSame key = true) (adding : Bool) :
    (locate ops set key hash adding).Answers context host
      (table.search hash isSame table.reach (table.start hash) none) :=
  .bind (answers_table hTable) (answers_locateAlong hTable hMatch hSelf adding _ _ _ _)

/-- A set has an item just if one of its entries under the hash is the same. -/
theorem answers_containsHashed (hTable : (host.body set).elements? = some table)
    (hSound : table.Sound)
    (hMatch : ∀ ref, (hash, ref) ∈ table.entries →
      (matching ops ref key).Answers context host (isSame ref))
    (hSelf : isSame key = true) :
    (containsHashed ops set key hash).Answers context host
      (decide (∃ ref, (hash, ref) ∈ table.entries ∧ isSame ref = true)) := by
  refine .bind (answers_locate hTable hMatch hSelf false) ?_
  rcases hSound.search hash isSame with
    ⟨index, ref, hPlace, hElement, hSame⟩ | ⟨index, reusable, hPlace, _, hNone⟩
  · rw [hPlace, decide_eq_true ⟨ref, SetTable.mem_entries_of_slot hElement, hSame⟩]
    exact .pure
  · have hAbsent : ¬ ∃ ref, (hash, ref) ∈ table.entries ∧ isSame ref = true := by
      rintro ⟨ref, hEntry, hSame⟩
      rw [hNone ref hEntry] at hSame
      cases hSame
    rw [hPlace, decide_eq_false hAbsent]
    exact .pure

/-- A visit to the elements of a set comes to the first answer. -/
theorem answers_visitFrom {α : Type} {visit : Int → Ref → HostM (Option α)} {answer : Int × Ref → Option α}
    (hLive : host.isLive set = true) (hTable : (host.body set).elements? = some table)
    (hVisit : ∀ entry ∈ table.entries, (visit entry.1 entry.2).Answers context host (answer entry))
    (steps index : Nat) (hSteps : (table.entriesFrom index).length < steps) :
    (visitFrom (Ops.ofDepth level) set visit steps index).Answers context host
      ((table.entriesFrom index).findSome? answer) := by
  induction steps generalizing index with
  | zero => omega
  | succ steps ih =>
    have hFound := table.entriesFrom_eq index
    rw [visitFrom]
    refine .bind (answers_table hTable) ?_
    cases hNext : table.from? index with
    | none =>
      rw [hNext] at hFound
      rw [hFound]
      exact .pure
    | some next =>
      obtain ⟨found, entry⟩ := next
      rw [hNext] at hFound
      have hEntry : entry ∈ table.entries := by
        have hMem : entry ∈ table.entriesFrom index := hFound ▸ List.mem_cons_self
        exact ((List.drop_sublist _ _).filterMap _).subset hMem
      rw [hFound, List.findSome?_cons]
      rw [hFound, List.length_cons] at hSteps
      refine .bind (.keeping (fun ref hRef _ => ?_) (hVisit entry hEntry)) ?_
      · rw [List.mem_singleton.mp hRef]
        exact refersTo_of_element hLive hTable (List.mem_map_of_mem hEntry)
      · cases answer entry with
        | some value => exact .pure
        | none => exact ih (found + 1) (by omega)

/-- A visit goes over the entries in order until one answers. -/
theorem answers_visit? {α : Type} {visit : Int → Ref → HostM (Option α)} {answer : Int × Ref → Option α}
    (hLive : host.isLive set = true) (hTable : (host.body set).elements? = some table)
    (hVisit : ∀ entry ∈ table.entries, (visit entry.1 entry.2).Answers context host (answer entry)) :
    (visit? (Ops.ofDepth level) set visit).Answers context host (table.entries.findSome? answer) := by
  refine .bind (answers_table hTable) (answers_visitFrom hLive hTable hVisit _ 0 ?_)
  rw [SetTable.entriesFrom_zero, SetTable.length_entries]
  exact Nat.lt_add_of_pos_left (by decide)

end SetObject

/-! Comparing. -/

theorem orderCodes_eq_iff (x y : List Nat) : orderCodes x y = .eq ↔ x = y := by
  induction x generalizing y with
  | nil => cases y <;> simp [orderCodes]
  | cons code rest ih => cases y <;> simp [orderCodes, ih]

theorem answer_equal (order : Option Ordering) :
    Relation.equal.answer order = .bool (decide (order = some .eq)) := by
  rcases order with _ | order
  · rfl
  · cases order <;> rfl

namespace Body

/-- Whether the kind of the first of two items says whether they are equal. -/
def judges : Body → Body → Bool
  | .float _, right => right.number?.isSome
  | .int _, right | .bool _, right => right.int?.isSome
  | .frozenset _, right => right.elements?.isSome
  | .text _, .text _ | .bytes _, .bytes _ | .tuple _, .tuple _ => true
  | _, _ => false

/-- A tuple or a frozen set says nothing of a scalar, and no scalar says anything of it. -/
theorem judges_isScalar {body other : Body} (hScalar : body.isScalar = true)
    (hOther : (∃ items, other = .tuple items) ∨ ∃ table, other = .frozenset table) :
    body.judges other = false ∧ other.judges body = false := by
  rcases hOther with ⟨items, rfl⟩ | ⟨table, rfl⟩ <;> cases body <;>
    first | exact ⟨rfl, rfl⟩ | cases hScalar

end Body

variable {α : Type} {content : Ref → α} {xs ys : List Ref}

/-- Sequences of items are compared up to the first difference. -/
theorem answers_firstDifference (hA : host.isLive a = true) (hB : host.isLive b = true)
    (hLeft : host.body a = .tuple xs) (hRight : host.body b = .tuple ys)
    (hSame : ∀ x ∈ xs, ∀ y ∈ ys,
      (same (Ops.ofDepth level) x y).Answers context host (decide (content x = content y)))
    (steps index : Nat) (hIndex : index ≤ xs.length) (hSteps : xs.length < index + steps) :
    ∃ last, (firstDifference (Ops.ofDepth level) a b steps index).Answers context host last ∧
      (∀ earlier, index ≤ earlier → earlier < last → ∃ x y,
        xs[earlier]? = some x ∧ ys[earlier]? = some y ∧ content x = content y) ∧
      (∀ x y, xs[last]? = some x → ys[last]? = some y → content x ≠ content y) := by
  induction steps generalizing index with
  | zero => omega
  | succ steps ih =>
    rw [firstDifference]
    cases hX : xs[index]? with
    | none =>
      refine ⟨index, .bind .heap ?_, fun earlier _ _ => by omega, fun x _ hFound _ => ?_⟩
      · simp only [hLeft, Body.items?, Option.bind_some, hX]
        exact .pure
      · rw [hX] at hFound
        cases hFound
    | some x =>
      cases hY : ys[index]? with
      | none =>
        refine ⟨index, .bind .heap ?_, fun earlier _ _ => by omega, fun _ y _ hFound => ?_⟩
        · simp only [hLeft, hRight, Body.items?, Option.bind_some, hX, hY]
          exact .pure
        · rw [hY] at hFound
          cases hFound
      | some y =>
        have hInX := List.mem_of_getElem? hX
        have hInY := List.mem_of_getElem? hY
        have hKept : (keepingBoth (Ops.ofDepth level) x y
            (same (Ops.ofDepth level) x y)).Answers context host (decide (content x = content y)) :=
          answers_keepingBoth
            (host.refersTo_of_mem hA (by simpa [hLeft, Body.references] using hInX))
            (host.refersTo_of_mem hB (by simpa [hRight, Body.references] using hInY))
            (hSame x hInX y hInY)
        by_cases hContent : content x = content y
        · have hInside := (List.getElem?_eq_some_iff.mp hX).1
          obtain ⟨last, hLast, hEarlier, hDiffer⟩ := ih (index + 1) hInside (by omega)
          refine ⟨last, .bind .heap ?_, fun earlier hFrom hBefore => ?_, hDiffer⟩
          · simp only [hLeft, hRight, Body.items?, Option.bind_some, hX, hY]
            rw [decide_eq_true hContent] at hKept
            exact .bind hKept hLast
          · rcases Nat.eq_or_lt_of_le hFrom with rfl | hLater
            · exact ⟨x, y, hX, hY, hContent⟩
            · exact hEarlier earlier hLater hBefore
        · refine ⟨index, .bind .heap ?_, fun earlier _ _ => by omega, fun first second hFirst hSecond => ?_⟩
          · simp only [hLeft, hRight, Body.items?, Option.bind_some, hX, hY]
            rw [decide_eq_false hContent] at hKept
            exact .bind hKept .pure
          · rw [hX] at hFirst
            rw [hY] at hSecond
            cases hFirst
            cases hSecond
            exact hContent

/-- Sequences are equal if their items are the same. -/
theorem answers_sequenceOpinion (hA : host.isLive a = true) (hB : host.isLive b = true)
    (hLeft : host.body a = .tuple xs) (hRight : host.body b = .tuple ys)
    (hSame : ∀ x ∈ xs, ∀ y ∈ ys,
      (same (Ops.ofDepth level) x y).Answers context host (decide (content x = content y))) :
    (sequenceOpinion (Ops.ofDepth level) .equal a b).Answers context host
      (.bool (decide (xs.map content = ys.map content))) := by
  have hLength : (host.size? (host.body a)).getD 0 = xs.length := by rw [hLeft]; rfl
  have hSteps : xs.length < 0 + (stepLimit + xs.length) := by
    have hLimit : 0 < stepLimit := by decide
    omega
  obtain ⟨last, hLast, hEarlier, hDiffer⟩ := answers_firstDifference hA hB hLeft hRight hSame
    (stepLimit + xs.length) 0 (Nat.zero_le _) hSteps
  have hAll (index : Nat) (hIndex : index < last) :
      (xs.map content)[index]? = (ys.map content)[index]? ∧ index < xs.length ∧ index < ys.length := by
    obtain ⟨x, y, hX, hY, hContent⟩ := hEarlier index (Nat.zero_le _) hIndex
    refine ⟨?_, (List.getElem?_eq_some_iff.mp hX).1, (List.getElem?_eq_some_iff.mp hY).1⟩
    rw [List.getElem?_map, List.getElem?_map, hX, hY, Option.map_some, Option.map_some, hContent]
  refine .bind .heap ?_
  dsimp only
  rw [hLength]
  refine .bind hLast (.bind .heap ?_)
  simp only [hLeft, hRight, Body.items?, Option.bind_some]
  split
  next x y hX hY =>
    have hOther : xs.map content ≠ ys.map content := by
      intro hEqual
      have hAt := congrArg (·[last]?) hEqual
      rw [List.getElem?_map, List.getElem?_map, hX, hY] at hAt
      exact hDiffer x y hX hY (Option.some.inj hAt)
    rw [decide_eq_false hOther]
    exact .pure
  next hNone =>
    have hEqual : compare (host.size? (host.body a)) (host.size? (host.body b)) = .eq ↔
        xs.map content = ys.map content := by
      have hSizes : compare (host.size? (host.body a)) (host.size? (host.body b)) = .eq ↔
          xs.length = ys.length := by
        rw [hLeft, hRight, Heap.size?, Heap.size?]
        exact Nat.compare_eq_eq
      rw [hSizes]
      refine ⟨fun hLengths => List.ext_getElem? fun index => ?_, fun hContents => ?_⟩
      · rcases Nat.lt_or_ge index last with hBefore | hAfter
        · exact (hAll index hBefore).1
        · have hShort : xs.length ≤ last := by
            by_contra hLong
            have hX := List.getElem?_eq_getElem (Nat.lt_of_not_le hLong)
            have hY := List.getElem?_eq_getElem (hLengths ▸ Nat.lt_of_not_le hLong)
            exact hNone _ _ hX hY
          rw [List.getElem?_eq_none (by simpa using hShort.trans hAfter),
            List.getElem?_eq_none (by simpa [← hLengths] using hShort.trans hAfter)]
      · simpa using congrArg List.length hContents
    refine .bind .heap ?_
    rw [answer_equal]
    simp only [Option.some.injEq, hEqual]
    exact .pure

namespace SetObject

variable {set key : Ref}

/-- What comparing the elements of a set with an item comes to. -/
theorem answers_matching_elements (hLive : host.isLive set = true)
    (hTable : (host.body set).elements? = some table) (hGathers : host.Gathers depth table)
    (hSame : ∀ item, host.IsItem depth item → (same (Ops.ofDepth level) item key).Answers context host
      (decide (host.content depth item = host.content depth key))) (hash : Int) :
    ∀ ref, (hash, ref) ∈ table.entries → (matching (Ops.ofDepth level) ref key).Answers context host
      (decide (host.content depth ref = host.content depth key)) :=
  fun ref hEntry => answers_matching
    (refersTo_of_element hLive hTable (List.mem_map_of_mem hEntry))
    (hSame ref (hGathers.item _ ref hEntry).1)

/-- A set contains an item if an element has the same content. -/
theorem answers_containsHashed_item (hLive : host.isLive set = true)
    (hTable : (host.body set).elements? = some table) (hGathers : host.Gathers depth table)
    (hKey : host.IsItem depth key)
    (hSame : ∀ item, host.IsItem depth item → (same (Ops.ofDepth level) item key).Answers context host
      (decide (host.content depth item = host.content depth key))) :
    (containsHashed (Ops.ofDepth level) set key (host.hashAs depth key)).Answers context host
      (decide (host.content depth key ∈ table.toList.map (host.content depth))) := by
  have hFound : (∃ ref, (host.hashAs depth key, ref) ∈ table.entries ∧
      decide (host.content depth ref = host.content depth key) = true) ↔
        host.content depth key ∈ table.toList.map (host.content depth) := by
    simp only [decide_eq_true_eq, List.mem_map]
    constructor
    · rintro ⟨ref, hEntry, hContent⟩
      exact ⟨ref, List.mem_map_of_mem hEntry, hContent⟩
    · rintro ⟨ref, hElement, hContent⟩
      obtain ⟨hItem, hEntry⟩ := hGathers.of_mem_toList hElement
      exact ⟨ref, Heap.hashAs_congr hItem hKey hContent ▸ hEntry, hContent⟩
  have hContains := answers_containsHashed hTable hGathers.sound
    (answers_matching_elements hLive hTable hGathers hSame (host.hashAs depth key))
    (decide_eq_true rfl)
  simpa only [hFound] using hContains

/-- A set is within another one of its size if that contains all its elements. -/
theorem answers_isWithin {left right : SetTable} (hA : host.isLive a = true) (hB : host.isLive b = true)
    (hTableA : (host.body a).elements? = some left) (hTableB : (host.body b).elements? = some right)
    (hLeft : host.Gathers depth left) (hRight : host.Gathers depth right)
    (hSame : ∀ x y, host.IsItem depth x → host.IsItem depth y →
      (same (Ops.ofDepth level) x y).Answers context host
        (decide (host.content depth x = host.content depth y)))
    (hSizes : left.size = right.size) :
    (isWithin (Ops.ofDepth level) a b).Answers context host
      (decide (∀ entry ∈ left.entries,
        host.content depth entry.2 ∈ right.toList.map (host.content depth))) := by
  have hVisit (entry : Int × Ref) (hEntry : entry ∈ left.entries) :
      (do if ← containsHashed (Ops.ofDepth level) b entry.2 entry.1 then return none
          else return some () : HostM (Option Unit)).Answers context host
        (if host.content depth entry.2 ∈ right.toList.map (host.content depth) then none
          else some ()) := by
    obtain ⟨hItem, hHash⟩ := hLeft.item _ _ hEntry
    rw [hHash]
    refine .bind (answers_containsHashed_item hB hTableB hRight hItem fun item hOther =>
      hSame item _ hOther hItem) ?_
    simp only [decide_eq_true_eq]
    split <;> exact .pure
  have hMissing : (left.entries.findSome? fun entry =>
      if host.content depth entry.2 ∈ right.toList.map (host.content depth) then none
        else some ()).isNone =
      decide (∀ entry ∈ left.entries,
        host.content depth entry.2 ∈ right.toList.map (host.content depth)) := by
    rw [Bool.eq_iff_iff, Option.isNone_iff_eq_none, List.findSome?_eq_none_iff, decide_eq_true_eq]
    simp only [ite_eq_left_iff, reduceCtorEq, imp_false, not_not]
  refine .bind (answers_table hTableB) (.bind (answers_table hTableA) ?_)
  rw [if_neg (Nat.not_lt.mpr hSizes.le), ← hMissing]
  exact .bind (answers_visit? hA hTableA hVisit) .pure

end SetObject

/-- Sets of items are equal if their elements have the same contents. -/
theorem answers_setOpinion {left right : SetTable} (hA : host.isLive a = true)
    (hB : host.isLive b = true) (hBodyA : host.body a = .frozenset left)
    (hBodyB : host.body b = .frozenset right) (hLeft : host.Gathers depth left)
    (hRight : host.Gathers depth right)
    (hSame : ∀ x y, host.IsItem depth x → host.IsItem depth y →
      (same (Ops.ofDepth level) x y).Answers context host
        (decide (host.content depth x = host.content depth y))) :
    (setOpinion (Ops.ofDepth level) .equal a b).Answers context host
      (decide (∀ content, content ∈ left.toList.map (host.content depth) ↔
        content ∈ right.toList.map (host.content depth))) := by
  have hTableA : (host.body a).elements? = some left := by rw [hBodyA]; rfl
  have hTableB : (host.body b).elements? = some right := by rw [hBodyB]; rfl
  have hLengths (table : SetTable) :
      (table.toList.map (host.content depth)).length = table.size := by
    rw [List.length_map, SetTable.toList, List.length_map, SetTable.length_entries]
  refine .bind (SetObject.answers_table hTableA) (.bind (SetObject.answers_table hTableB) ?_)
  dsimp only
  split
  next hSizes =>
    have hWithin : (∀ entry ∈ left.entries,
          host.content depth entry.2 ∈ right.toList.map (host.content depth)) ↔
        ∀ content, content ∈ left.toList.map (host.content depth) ↔
          content ∈ right.toList.map (host.content depth) := by
      constructor
      · intro hThere
        have hSubset : left.toList.map (host.content depth) ⊆ right.toList.map (host.content depth) := by
          intro content hContent
          simp only [SetTable.toList, List.map_map, List.mem_map] at hContent
          obtain ⟨entry, hEntry, rfl⟩ := hContent
          exact hThere entry hEntry
        have hPerm := (hLeft.distinct.subperm hSubset).perm_of_length_le
          (by rw [hLengths, hLengths, hSizes])
        exact fun content => hPerm.mem_iff
      · exact fun hContents entry hEntry =>
          (hContents _).mp (List.mem_map_of_mem (List.mem_map_of_mem hEntry))
    simpa only [hWithin] using
      SetObject.answers_isWithin hA hB hTableA hTableB hLeft hRight hSame hSizes
  next hSizes =>
    have hOther : ¬ ∀ content, content ∈ left.toList.map (host.content depth) ↔
        content ∈ right.toList.map (host.content depth) := by
      intro hContents
      have hPerm := (List.perm_ext_iff_of_nodup hLeft.distinct hRight.distinct).mpr hContents
      exact hSizes (by simpa only [hLengths] using hPerm.length_eq)
    rw [decide_eq_false hOther]
    exact .pure

namespace Body

/-- Numbers are compared by what they stand for. -/
theorem scalar_eq_iff {x y : Body} {left right : Binary64.Value} (hX : x.number? = some left)
    (hY : y.number? = some right) (hOther : a ≠ b) :
    x.scalar a = y.scalar b ↔ left.order? right = some .eq := by
  have hScalar (ref : Ref) {body : Body} {number : Binary64.Value} (hNumber : body.number? = some number) :
      body.scalar ref = number.numeric?.elim (.identity ref) .number := by
    have hNumeric : body.numeric? = number.numeric? := by
      rw [numeric?, hNumber, Option.bind_some]
    rw [← hNumeric]
    cases body <;> first | rfl | cases hNumber
  rw [hScalar a hX, hScalar b hY, Binary64.order?_eq_iff]
  cases left.numeric? <;> cases right.numeric? <;> simp [hOther]

theorem number?_of_int? {body : Body} {value : Int} (hInt : body.int? = some value) :
    body.number? = some (.ofInt value) := by
  cases body <;> simp_all [number?, int?]

/-- Integers are compared by what they are. -/
theorem scalar_eq_iff_int {x y : Body} {left right : Int} (hX : x.int? = some left)
    (hY : y.int? = some right) (hOther : a ≠ b) : x.scalar a = y.scalar b ↔ left = right := by
  rw [scalar_eq_iff (number?_of_int? hX) (number?_of_int? hY) hOther, Binary64.order?_eq_iff,
    Binary64.numeric?_ofInt, Binary64.numeric?_ofInt]
  simp

end Body

/-- Of two numbers one judges the other. -/
theorem Body.judges_of_numeric? {x y : Body} (hX : x.numeric?.isSome = true)
    (hY : y.numeric?.isSome = true) : x.judges y = true ∨ y.judges x = true := by
  have hNumber {body : Body} (hBody : body.numeric?.isSome = true) : body.number?.isSome = true := by
    cases hNone : body.number? with
    | none =>
      rw [numeric?, hNone] at hBody
      cases hBody
    | some number => rfl
  replace hX := hNumber hX
  replace hY := hNumber hY
  cases x with
  | float bits => exact .inl hY
  | int | bool =>
    cases y with
    | float other => exact .inr hX
    | int | bool => exact .inl rfl
    | _ => cases hY
  | _ => cases hX

/-- An item of a kind that does not judge another one has no opinion. -/
theorem answers_kindOpinion_none {ops : Ops} (hItem : host.IsItem (depth + 1) a)
    (hJudges : (host.body a).judges (host.body b) = false) :
    (kindOpinion ops .equal a b).Answers context host none := by
  have hKind := hItem.2
  refine .bind .heap ?_
  cases hA : host.body a with
  | float bits =>
    have hNumber : (host.body b).number? = none := by simpa [hA, Body.judges] using hJudges
    simp only [hNumber, Option.map_none]
    exact .pure
  | int value =>
    have hInt : (host.body b).int? = none := by simpa [hA, Body.judges] using hJudges
    dsimp only
    rw [hInt]
    exact .pure
  | bool value =>
    have hInt : (host.body b).int? = none := by simpa [hA, Body.judges] using hJudges
    dsimp only
    rw [hInt]
    exact .pure
  | text | bytes | tuple | frozenset =>
    cases hB : host.body b <;> first
      | exact .pure
      | rw [hA, hB] at hJudges
        cases hJudges
  | nil | plain | notImplemented | type => exact .pure
  | _ =>
    rw [hA] at hKind
    cases hKind

/-- Scalars that judge each other go by their values. -/
theorem answers_kindOpinion_scalar {ops : Ops} (hOther : a ≠ b)
    (hScalar : (host.body a).isScalar = true)
    (hJudges : (host.body a).judges (host.body b) = true) :
    (kindOpinion ops .equal a b).Answers context host
      (some (.bool (decide ((host.body a).scalar a = (host.body b).scalar b)))) := by
  refine .bind .heap ?_
  cases hA : host.body a with
  | float bits =>
    rw [hA] at hJudges
    obtain ⟨number, hNumber⟩ := Option.isSome_iff_exists.mp hJudges
    have hLeft : (Body.float bits).number? = some (Binary64.decode bits) := rfl
    simp only [hNumber, Option.map_some, answer_equal, Body.scalar_eq_iff hLeft hNumber hOther]
    exact .pure
  | int value =>
    rw [hA] at hJudges
    obtain ⟨other, hInt⟩ := Option.isSome_iff_exists.mp hJudges
    have hLeft : (Body.int value).int? = some value := rfl
    dsimp only
    simp only [hLeft, hInt, answer_equal, Body.scalar_eq_iff_int hLeft hInt hOther, Option.some.injEq,
      compare_eq_iff_eq]
    exact .pure
  | bool value =>
    rw [hA] at hJudges
    obtain ⟨other, hInt⟩ := Option.isSome_iff_exists.mp hJudges
    have hLeft : (Body.bool value).int? = some (if value then 1 else 0) := rfl
    dsimp only
    simp only [hLeft, hInt, answer_equal, Body.scalar_eq_iff_int hLeft hInt hOther, Option.some.injEq,
      compare_eq_iff_eq]
    exact .pure
  | text codes =>
    cases hB : host.body b with
    | text others =>
      simp only [answer_equal, Option.some.injEq, orderCodes_eq_iff, Body.scalar, Scalar.text.injEq]
      exact .pure
    | _ =>
      rw [hA, hB] at hJudges
      cases hJudges
  | bytes content =>
    cases hB : host.body b with
    | bytes other =>
      have hBytes : content.map UInt8.toNat = other.map UInt8.toNat ↔ content = other :=
        List.map_inj_right fun _ _ => UInt8.toNat.inj
      simp only [answer_equal, Option.some.injEq, orderCodes_eq_iff, hBytes, Body.scalar,
        Scalar.bytes.injEq]
      exact .pure
    | _ =>
      rw [hA, hB] at hJudges
      cases hJudges
  | nil | plain | notImplemented | type =>
    rw [hA] at hJudges
    cases hJudges
  | _ =>
    rw [hA] at hScalar
    cases hScalar

/-- What the kind of an item makes of another one that it judges. -/
theorem answers_kindOpinion_some (hA : host.IsItem (depth + 1) a) (hB : host.IsItem (depth + 1) b)
    (hOther : a ≠ b)
    (hSame : ∀ x y, host.IsItem depth x → host.IsItem depth y →
      (same (Ops.ofDepth level) x y).Answers context host
        (decide (host.content depth x = host.content depth y)))
    (hJudges : (host.body a).judges (host.body b) = true) :
    (kindOpinion (Ops.ofDepth level) .equal a b).Answers context host
      (some (.bool (decide (host.content (depth + 1) a = host.content (depth + 1) b)))) := by
  cases hA.form with
  | tuple items hBodyA hItems hContentA =>
    cases hB.form with
    | tuple others hBodyB hOthers hContentB =>
      have hAlike : host.content (depth + 1) a = host.content (depth + 1) b ↔
          items.map (host.content depth) = others.map (host.content depth) := by
        rw [hContentA, hContentB]
        exact ⟨Shape.tuple.inj, congrArg Shape.tuple⟩
      refine .bind .heap ?_
      simp only [hBodyA, hBodyB, hAlike]
      exact .map (answers_sequenceOpinion hA.isBuiltin.live hB.isBuiltin.live hBodyA hBodyB
        fun x hX y hY => hSame x y (hItems x hX) (hOthers y hY))
    | frozen other hBodyB =>
      rw [hBodyA, hBodyB] at hJudges
      cases hJudges
    | scalar hScalarB =>
      have hNot := (Body.judges_isScalar hScalarB (.inl ⟨items, hBodyA⟩)).2
      rw [hJudges] at hNot
      cases hNot
  | frozen table hBodyA hGathersA hContentA =>
    cases hB.form with
    | frozen other hBodyB hGathersB hContentB =>
      have hAlike : host.content (depth + 1) a = host.content (depth + 1) b ↔
          ∀ content, content ∈ table.toList.map (host.content depth) ↔
            content ∈ other.toList.map (host.content depth) := by
        rw [hContentA, hContentB]
        refine ⟨fun hEqual content => iff_of_eq (congrFun (Shape.frozen.inj hEqual) content),
          fun hContents => congrArg Shape.frozen (funext fun content => propext (hContents content))⟩
      refine .bind .heap ?_
      simp only [hBodyA, hBodyB, hAlike]
      exact .bind (answers_setOpinion hA.isBuiltin.live hB.isBuiltin.live hBodyA hBodyB hGathersA
        hGathersB hSame) .pure
    | tuple others hBodyB =>
      rw [hBodyA, hBodyB] at hJudges
      cases hJudges
    | scalar hScalarB =>
      have hNot := (Body.judges_isScalar hScalarB (.inr ⟨table, hBodyA⟩)).2
      rw [hJudges] at hNot
      cases hNot
  | scalar hScalarA hContentA =>
    cases hB.form with
    | scalar hScalarB hContentB =>
      have hAlike : host.content (depth + 1) a = host.content (depth + 1) b ↔
          (host.body a).scalar a = (host.body b).scalar b := by
        rw [hContentA, hContentB]
        exact ⟨Shape.scalar.inj, congrArg Shape.scalar⟩
      simp only [hAlike]
      exact answers_kindOpinion_scalar hOther hScalarA hJudges
    | tuple others hBodyB =>
      have hNot := (Body.judges_isScalar hScalarA (.inl ⟨others, hBodyB⟩)).1
      rw [hJudges] at hNot
      cases hNot
    | frozen other hBodyB =>
      have hNot := (Body.judges_isScalar hScalarA (.inr ⟨other, hBodyB⟩)).1
      rw [hJudges] at hNot
      cases hNot

/-- What an item makes of another one, if it has an opinion. -/
theorem answers_opinion (hA : host.IsItem (depth + 1) a) (hB : host.IsItem (depth + 1) b)
    (hOther : a ≠ b)
    (hSame : ∀ x y, host.IsItem depth x → host.IsItem depth y →
      (same (Ops.ofDepth level) x y).Answers context host
        (decide (host.content depth x = host.content depth y))) :
    (opinion (Ops.ofDepth level) .equal a b).Answers context host
      (if (host.body a).judges (host.body b) then
        some (.bool (decide (host.content (depth + 1) a = host.content (depth + 1) b)))
      else none) := by
  refine .bind (.scripted? (hA.isBuiltin.scripted? _)) (.bind .bodyOf ?_)
  cases hComparable : (host.body a).isComparable with
  | true =>
    rw [if_pos rfl]
    split
    next hJudges => exact answers_kindOpinion_some hA hB hOther hSame hJudges
    next hJudges => exact answers_kindOpinion_none hA (by simpa using hJudges)
  | false =>
    have hJudges : (host.body a).judges (host.body b) = false := by
      revert hComparable
      cases host.body a <;> simp [Body.isComparable, Body.judges]
    rw [if_neg Bool.false_ne_true, hJudges, if_neg Bool.false_ne_true, identityOpinion]
    simp only [hOther, if_false]
    exact .pure

/-- Of two different items with the same content one judges the other. -/
theorem judges_of_content (hA : host.IsItem (depth + 1) a) (hB : host.IsItem (depth + 1) b)
    (hOther : a ≠ b) (hContent : host.content (depth + 1) a = host.content (depth + 1) b) :
    (host.body a).judges (host.body b) = true ∨ (host.body b).judges (host.body a) = true := by
  rcases hA.form with ⟨hScalarA, hX⟩ | ⟨items, hBodyA, _, hX⟩ | ⟨table, hBodyA, _, hX⟩ <;>
    rcases hB.form with ⟨hScalarB, hY⟩ | ⟨others, hBodyB, _, hY⟩ | ⟨other, hBodyB, _, hY⟩ <;>
    rw [hX, hY] at hContent
  case tuple.tuple => exact .inl (by rw [hBodyA, hBodyB]; rfl)
  case frozen.frozen => exact .inl (by rw [hBodyA, hBodyB]; rfl)
  case scalar.scalar =>
    rcases Body.alike (Shape.scalar.inj hContent) with
      ⟨codes, hTextA, hTextB⟩ | ⟨content, hBytesA, hBytesB⟩ | ⟨hNumeric, hOne, _⟩
    · exact .inl (by rw [hTextA, hTextB]; rfl)
    · exact .inl (by rw [hBytesA, hBytesB]; rfl)
    · have hNumber : (host.body a).numeric?.isSome = true := by
        by_contra hNone
        exact hOther (hOne (by simpa using hNone))
      exact Body.judges_of_numeric? hNumber (hNumeric ▸ hNumber)
  all_goals cases hContent

/-- Different items are equal if they have the same content. -/
theorem answers_compared (hA : host.IsItem (depth + 1) a) (hB : host.IsItem (depth + 1) b)
    (hOther : a ≠ b) (hNesting : context.nesting < nestingLimit)
    (hSame : ∀ x y, host.IsItem depth x → host.IsItem depth y →
      (same (Ops.ofDepth level) x y).Answers { context with nesting := context.nesting + 1 } host
        (decide (host.content depth x = host.content depth y))) :
    (compared (Ops.ofDepth level) .equal a b).Answers context host
      (.bool (decide (host.content (depth + 1) a = host.content (depth + 1) b))) := by
  have hForth := answers_opinion hA hB hOther hSame
  have hBack := answers_opinion hB hA hOther.symm hSame
  simp only [eq_comm (a := host.content (depth + 1) b)] at hBack
  have hSilent (hLeft : (host.body a).judges (host.body b) = false)
      (hRight : (host.body b).judges (host.body a) = false) :
      (answerWithoutOpinion .equal a b).Answers { context with nesting := context.nesting + 1 } host
        (.bool (decide (host.content (depth + 1) a = host.content (depth + 1) b))) := by
    have hContent : host.content (depth + 1) a ≠ host.content (depth + 1) b := by
      intro hContent
      rcases judges_of_content hA hB hOther hContent with hJudges | hJudges
      · rw [hLeft] at hJudges
        cases hJudges
      · rw [hRight] at hJudges
        cases hJudges
    rw [decide_eq_false hContent, answerWithoutOpinion, decide_eq_false hOther]
    exact .pure
  refine .nested hNesting (.bind .heap ?_)
  dsimp only
  cases host.derives b a with
  | true =>
    rw [if_pos rfl]
    refine .bind hBack ?_
    cases hRight : (host.body b).judges (host.body a) with
    | true =>
      rw [if_pos rfl]
      exact .pure
    | false =>
      rw [if_neg Bool.false_ne_true]
      refine .bind hForth ?_
      cases hLeft : (host.body a).judges (host.body b) with
      | true =>
        rw [if_pos rfl]
        exact .pure
      | false =>
        rw [if_neg Bool.false_ne_true]
        exact .bind .pure (hSilent hLeft hRight)
  | false =>
    rw [if_neg Bool.false_ne_true]
    refine .bind .pure (.bind hForth ?_)
    cases hLeft : (host.body a).judges (host.body b) with
    | true =>
      rw [if_pos rfl]
      exact .pure
    | false =>
      rw [if_neg Bool.false_ne_true]
      refine .bind hBack ?_
      cases hRight : (host.body b).judges (host.body a) with
      | true =>
        rw [if_pos rfl]
        exact .pure
      | false =>
        rw [if_neg Bool.false_ne_true]
        exact hSilent hLeft hRight

/-- Items are the same for the host if they have the same content, as long as they nest no deeper than
operations may. -/
theorem answers_same (hA : host.IsItem depth a) (hB : host.IsItem depth b) (hLevel : depth ≤ level)
    (hNesting : context.nesting + depth ≤ nestingLimit) :
    (same (Ops.ofDepth level) a b).Answers context host
      (decide (host.content depth a = host.content depth b)) := by
  induction depth generalizing level context a b with
  | zero => exact hA.elim
  | succ depth ih =>
    obtain ⟨level, rfl⟩ : ∃ lower, level = lower + 1 := ⟨level - 1, by omega⟩
    unfold same
    split
    next hOne =>
      rw [hOne, decide_eq_true rfl]
      exact .pure
    next hOther =>
      have hCompared : ((Ops.ofDepth (level + 1)).compare .equal a b).Answers context host
          (.bool (decide (host.content (depth + 1) a = host.content (depth + 1) b))) :=
        answers_compared hA hB hOther (by omega) fun x y hX hY =>
          ih hX hY (by omega) (by dsimp only; omega)
      exact .bind hCompared fun world _ => eval_decided_bool _ _ context world

end HeapBridge.Host
