import HeapBridge.Bridge
import HeapBridge.Proofs.Evaluating
import HeapBridge.Proofs.Sets.Comparing
/-!
Letting go of items. When references to items are given back, the items that nothing refers to are given up
together with what they alone held. No script is run and nothing else is changed; in particular a set stays
as it is, and so do its elements, since it refers to them.
-/
namespace HeapBridge

open Host (Body Heap HostM Object Ref SetTable)

variable {world before middle after : World} {ref inner : Ref} {refs kept others : List Ref}
  {depth : Nat}

namespace Host

/-- Whether a body is one that items may have. -/
def Body.isValue : Body → Bool
  | .tuple _ | .frozenset _ => true
  | body => body.isScalar

theorem Body.isValue_of_isScalar {body : Body} (hScalar : body.isScalar = true) :
    body.isValue = true := by
  cases body <;> first | exact hScalar | rfl

/-- A scalar refers to nothing. -/
theorem Body.references_of_isScalar {body : Body} (hScalar : body.isScalar = true) :
    body.references = [] := by
  cases body <;> first | rfl | cases hScalar

namespace Heap

variable {heap : Heap}

/-- Items hold no host code. -/
theorem IsItem.isValue (hItem : heap.IsItem depth ref) : (heap.body ref).isValue = true := by
  cases depth with
  | zero => exact hItem.elim
  | succ depth =>
    rcases hItem.form with ⟨hScalar, _⟩ | ⟨items, hBody, _⟩ | ⟨table, hBody, _⟩
    · exact Body.isValue_of_isScalar hScalar
    · rw [hBody]
      rfl
    · rw [hBody]
      rfl

theorem IsBuiltin.references (hBuiltin : heap.IsBuiltin ref) :
    (heap.view ref).references = (heap.body ref).references := by
  rw [Object.references, hBuiltin.attributes, List.map_nil, List.nil_append, body]

/-- What an item refers to are items. -/
theorem IsItem.child (hItem : heap.IsItem depth ref) (hChild : inner ∈ (heap.body ref).references) :
    ∃ lower, heap.IsItem lower inner := by
  cases depth with
  | zero => exact hItem.elim
  | succ depth =>
    refine ⟨depth, ?_⟩
    rcases hItem.form with ⟨hScalar, _⟩ | ⟨items, hBody, hItems, _⟩ | ⟨table, hBody, hGathers, _⟩
    · rw [Body.references_of_isScalar hScalar] at hChild
      exact absurd hChild List.not_mem_nil
    · rw [hBody] at hChild
      exact hItems inner (List.mem_reverse.mp hChild)
    · rw [hBody] at hChild
      exact (hGathers.of_mem_toList hChild).1

/-- Giving up an object that nothing in the heap refers to leaves the other items as they are. -/
theorem keeps_free {address : Nat} (hFree : heap.refersTo (.object address) = false) :
    heap.Keeps (heap.free address) (· ≠ .object address) where
  same depth ref hItem hOther := by
    cases ref with
    | atom value => exact ⟨rfl, rfl⟩
    | object other =>
      have hSame : (heap.free address).object? other = heap.object? other :=
        object?_free_of_ne fun hEqual => hOther (congrArg Ref.object hEqual.symm)
      exact ⟨by rw [view, view, hSame], by rw [isLive, hSame]; exact hItem.isBuiltin.live⟩
  closed depth ref hItem _ child hChild := by
    rintro rfl
    rw [refersTo_of_mem hItem.isBuiltin.live hChild] at hFree
    cases hFree

end Heap

end Host

namespace World

theorem unhold_eq (hHeld : world.held = ref :: others) :
    world.unhold ref = { world with held := others } := by
  rw [unhold, hHeld, List.erase_cons_head]

theorem unholdAll_eq (hHeld : world.held = refs ++ others) :
    world.unholdAll refs = { world with held := others } := by
  have hTaken : world = World.holdAll refs { world with held := others } := by
    rw [holdAll, ← hHeld]
  rw [hTaken, unholdAll_holdAll]
  rfl

/-- The world if just these references are held. -/
def holdingOnly (kept : List Ref) (world : World) : World := { world with held := kept }

/-- What letting go of items comes to, while `kept` is held throughout: some items are gone that nothing
refers to. -/
structure Sheds (kept : List Ref) (before after : World) : Prop where
  /-- Nothing but the host objects and what is held has changed. -/
  aside : after = { before with
    host := { before.host with cells := after.host.cells }, held := after.held }
  object : ∀ address, after.host.object? address = before.host.object? address ∨
    (after.host.object? address = none ∧ (before.host.body (.object address)).isValue = true ∧
      (after.holdingOnly kept).isReferenced (.object address) = false)

namespace Sheds

theorem of_held (held : List Ref) : Sheds kept before { before with held } where
  aside := rfl
  object _ := .inl rfl

/-- What is there afterwards was there before. -/
theorem object_of_some (hSheds : Sheds kept before after) {address : Nat} {object : Object}
    (hObject : after.host.object? address = some object) :
    before.host.object? address = some object := by
  rcases hSheds.object address with hSame | ⟨hGone, _⟩
  · exact hSame.symm.trans hObject
  · rw [hGone] at hObject
    cases hObject

/-- What refers to an object afterwards did so before. -/
theorem isReferenced (hSheds : Sheds kept before after)
    (hReferenced : (after.holdingOnly kept).isReferenced ref = true) :
    (before.holdingOnly kept).isReferenced ref = true := by
  have hHost (hRefers : after.host.refersTo ref = true) : before.host.refersTo ref = true := by
    rw [Heap.refersTo_iff] at hRefers ⊢
    rw [hSheds.aside] at hRefers
    refine hRefers.imp_left ?_
    rintro ⟨address, object, hObject, hRef⟩
    exact ⟨address, object, hSheds.object_of_some hObject, hRef⟩
  have hNative : after.native = before.native := by rw [hSheds.aside]
  have hCursors : after.cursors = before.cursors := by rw [hSheds.aside]
  have hRegistry : after.registry = before.registry := by rw [hSheds.aside]
  simp only [World.isReferenced, holdingOnly, hNative, hCursors, hRegistry, Bool.or_eq_true]
    at hReferenced ⊢
  exact hReferenced.imp_right hHost

/-- Shedding adds up. -/
theorem trans (hFirst : Sheds kept before middle) (hSecond : Sheds kept middle after) :
    Sheds kept before after where
  aside := by
    rw [hSecond.aside, hFirst.aside]
  object address := by
    rcases hSecond.object address with hSame | ⟨hGone, hValue, hFree⟩
    · rw [hSame]
      refine (hFirst.object address).imp_right fun ⟨hGone, hValue, hFree⟩ => ⟨hGone, hValue, ?_⟩
      exact Bool.eq_false_iff.mpr fun hReferenced =>
        Bool.eq_false_iff.mp hFree (hSecond.isReferenced hReferenced)
    · rcases hFirst.object address with hSame | ⟨hNone, hOld, _⟩
      · refine .inr ⟨hGone, ?_, hFree⟩
        rwa [Heap.body, Heap.view, ← hSame]
      · exact .inr ⟨hGone, hOld, hFree⟩

/-- Less may have been held throughout. -/
theorem mono (hSheds : Sheds others before after) (hKept : kept ⊆ others) :
    Sheds kept before after where
  aside := hSheds.aside
  object address := by
    refine (hSheds.object address).imp_right fun ⟨hGone, hValue, hFree⟩ => ⟨hGone, hValue, ?_⟩
    refine Bool.eq_false_iff.mpr fun hReferenced => Bool.eq_false_iff.mp hFree ?_
    simp only [World.isReferenced, holdingOnly, Bool.or_eq_true, List.contains_iff_mem]
      at hReferenced ⊢
    rcases hReferenced with (((hHeld | hNative) | hCursor) | hRegistry) | hHost
    · exact .inl (.inl (.inl (.inl (hKept hHeld))))
    · exact .inl (.inl (.inl (.inr hNative)))
    · exact .inl (.inl (.inr hCursor))
    · exact .inl (.inr hRegistry)
    · exact .inr hHost

/-- An item that nothing refers to is given up. -/
theorem free {address : Nat} (hKept : kept ⊆ world.held)
    (hValue : (world.host.body (.object address)).isValue = true)
    (hFree : world.isReferenced (.object address) = false) :
    Sheds kept world { world with host := world.host.free address } where
  aside := rfl
  object other := by
    rcases eq_or_ne address other with rfl | hOther
    · refine .inr ⟨Heap.object?_free_self .., hValue, ?_⟩
      have hLess (hReferenced : (World.holdingOnly kept { world with
          host := world.host.free address }).isReferenced (.object address) = true) :
          world.isReferenced (.object address) = true := by
        have hHost (hRefers : (world.host.free address).refersTo (.object address) = true) :
            world.host.refersTo (.object address) = true := by
          rw [Heap.refersTo_iff] at hRefers ⊢
          refine hRefers.imp_left ?_
          rintro ⟨other, object, hObject, hRef⟩
          rcases eq_or_ne address other with rfl | hOther
          · rw [Heap.object?_free_self] at hObject
            cases hObject
          · exact ⟨other, object, Heap.object?_free_of_ne hOther ▸ hObject, hRef⟩
        simp only [World.isReferenced, holdingOnly, Bool.or_eq_true, List.contains_iff_mem]
          at hReferenced ⊢
        rcases hReferenced with (((hHeld | hNative) | hCursor) | hRegistry) | hRefers
        · exact .inl (.inl (.inl (.inl (hKept hHeld))))
        · exact .inl (.inl (.inl (.inr hNative)))
        · exact .inl (.inl (.inr hCursor))
        · exact .inl (.inr hRegistry)
        · exact .inr (hHost hRefers)
      exact Bool.eq_false_iff.mpr fun hReferenced => Bool.eq_false_iff.mp hFree (hLess hReferenced)
    · exact .inl (Heap.object?_free_of_ne hOther)

end Sheds

end World

namespace Host

variable {context : Context} {ops : Ops}

/-- An object of a built-in type is not told that it is about to be given up. -/
theorem eval_finalize_builtin {address : Nat} (hBuiltin : world.host.IsBuiltin (.object address)) :
    (finalize ops address).eval context world = (.ok (), world) :=
  eval_finalize_quiet (.inr (hBuiltin.scripted? "__del__"))

/-- What an object referred to is in flight when it is given up, unless it is a handle. -/
theorem World.reclaim_of_not_isHandle {address : Nat}
    (hBody : (world.host.body (.object address)).isHandle = false) :
    world.reclaim address = ((world.host.view (.object address)).references,
      { world with host := world.host.free address }) := by
  unfold World.reclaim
  dsimp only
  split
  next hHandle =>
    rw [Heap.body, hHandle] at hBody
    cases hBody
  next => rfl

theorem Body.isHandle_of_isValue {body : Body} (hValue : body.isValue = true) : body.isHandle = false := by
  cases body <;> first | rfl | cases hValue

/-- When an item is given up, the items that it referred to are in flight, and these as well as others that
something refers to are items still. -/
theorem sheds_giveUp {address : Nat} (hAbandoned : isAbandoned address world = true)
    (hItem : world.host.IsItem depth (.object address)) (hKept : kept ⊆ world.held) :
    World.Sheds kept world (giveUp address world).2 ∧
      (giveUp address world).2.held = (giveUp address world).1 ++ world.held ∧
      (∀ ref ∈ (giveUp address world).1, ∃ lower, (giveUp address world).2.host.IsItem lower ref) ∧
      ∀ ref, world.isReferenced ref = true → (∃ lower, world.host.IsItem lower ref) →
        ∃ lower, (giveUp address world).2.host.IsItem lower ref := by
  have hFree : world.isReferenced (.object address) = false := by
    rw [isAbandoned, Bool.and_eq_true, Bool.not_eq_true'] at hAbandoned
    exact hAbandoned.2
  have hUnreferred : world.host.refersTo (.object address) = false := by
    refine Bool.eq_false_iff.mpr fun hRefers => Bool.eq_false_iff.mp hFree ?_
    exact World.isReferenced_of_refersTo hRefers
  have hKeeps := Heap.keeps_free hUnreferred
  rw [giveUp, if_pos hAbandoned, World.reclaim_of_not_isHandle (Body.isHandle_of_isValue hItem.isValue), hItem.isBuiltin.references]
  refine ⟨(World.Sheds.free hKept hItem.isValue hFree).trans (.of_held _), rfl, fun ref hRef => ?_,
    fun ref hReferenced hOld => ?_⟩
  · have hChild := (List.mem_filter.mp hRef).1
    obtain ⟨lower, hLower⟩ := hItem.child hChild
    refine ⟨lower, (hLower.lasts hKeeps ?_).item⟩
    rintro rfl
    rw [Heap.refersTo_of_mem hItem.isBuiltin.live hChild] at hUnreferred
    cases hUnreferred
  · obtain ⟨lower, hLower⟩ := hOld
    refine ⟨lower, (hLower.lasts hKeeps ?_).item⟩
    rintro rfl
    rw [hReferenced] at hFree
    cases hFree

/-- Items are let go of without anything else being changed. -/
theorem sheds_letGo (steps : Nat) (hHeld : world.held = refs ++ others) (hKept : kept ⊆ others)
    (hItems : ∀ ref ∈ refs, ∃ depth, world.host.IsItem depth ref) :
    World.Sheds kept world (letGo ops context steps refs world) ∧
      (letGo ops context steps refs world).held = others := by
  fun_induction letGo ops context steps refs world with
  | case1 refs world =>
    rw [World.unholdAll_eq hHeld]
    exact ⟨.of_held others, rfl⟩
  | case2 steps world => exact ⟨.of_held world.held, hHeld⟩
  | case3 steps value rest world ih =>
    rw [World.unhold_eq hHeld] at ih ⊢
    obtain ⟨hSheds, hAfter⟩ := ih rfl fun ref hRef => hItems ref (List.mem_cons_of_mem _ hRef)
    exact ⟨(World.Sheds.of_held _).trans hSheds, hAfter⟩
  | case4 steps address rest world middle hAbandoned freed after hGiveUp ih =>
    have hFirst : World.Sheds kept world middle := .of_held _
    have hMiddle : middle.held = rest ++ others :=
      congrArg World.held (World.unhold_eq hHeld)
    have hItemsMiddle : ∀ ref ∈ .object address :: rest, ∃ depth, middle.host.IsItem depth ref := hItems
    clear_value middle
    obtain ⟨depth, hItem⟩ := hItemsMiddle (.object address) List.mem_cons_self
    rw [eval_finalize_builtin hItem.isBuiltin] at hGiveUp
    have hGiven := sheds_giveUp hAbandoned hItem
      (hMiddle ▸ List.Subset.trans hKept (List.subset_append_right _ _))
    rw [hGiveUp] at hGiven
    obtain ⟨hGone, hAfterHeld, hFreed, hStay⟩ := hGiven
    rw [hMiddle, ← List.append_assoc] at hAfterHeld
    obtain ⟨hSheds, hEnd⟩ := ih hAfterHeld fun ref hRef => by
      rcases List.mem_append.mp hRef with hFirst | hRest
      · exact hFreed ref hFirst
      · refine hStay ref ?_ (hItemsMiddle ref (List.mem_cons_of_mem _ hRest))
        have hHolds : ref ∈ middle.held := hMiddle ▸ List.mem_append_left _ hRest
        simp [World.isReferenced, hHolds]
    exact ⟨(hFirst.trans hGone).trans hSheds, hEnd⟩
  | case5 steps address rest world middle hStays ih =>
    have hFirst : World.Sheds kept world middle := .of_held _
    have hMiddle : middle.held = rest ++ others :=
      congrArg World.held (World.unhold_eq hHeld)
    obtain ⟨hSheds, hAfter⟩ := ih hMiddle fun ref hRef => hItems ref (List.mem_cons_of_mem _ hRef)
    exact ⟨hFirst.trans hSheds, hAfter⟩

/-- Items in flight are let go of without anything else being changed. -/
theorem sheds_release {level : Nat} (hKept : kept ⊆ world.held)
    (hItems : ∀ ref ∈ refs, ∃ depth, world.host.IsItem depth ref) :
    ∃ after, ((Ops.ofDepth level).release refs).eval context world = (.ok (), after) ∧
      World.Sheds kept world after ∧ after.held = world.held := by
  cases level with
  | zero => exact ⟨world, rfl, .of_held _, rfl⟩
  | succ level =>
    have hHolds : World.Sheds kept world (world.holdAll (refs.filter Ref.isObject)) := .of_held _
    let after := letGo (Ops.ofDepth level) context stepLimit (refs.filter Ref.isObject)
      (world.holdAll (refs.filter Ref.isObject))
    obtain ⟨hSheds, hAfter⟩ : World.Sheds kept (world.holdAll (refs.filter Ref.isObject)) after ∧
        after.held = world.held :=
      sheds_letGo stepLimit rfl hKept fun ref hRef => hItems ref (List.mem_filter.mp hRef).1
    exact ⟨after, rfl, hHolds.trans hSheds, hAfter⟩

end Host

namespace World

/-- A reference to an item is given back. -/
theorem sheds_letGo (hHeld : world.held = ref :: others) (hKept : kept ⊆ others)
    (hItem : world.host.IsItem depth ref) :
    Sheds kept world (world.letGo ref) ∧ (world.letGo ref).held = others := by
  have hUnhold : world.unhold ref = { world with held := others } := unhold_eq hHeld
  obtain ⟨after, hRelease, hSheds, hAfter⟩ : ∃ after,
      ((Host.Ops.ofDepth Host.depthLimit).release [ref]).eval {} (world.unhold ref) = (.ok (), after) ∧
        Sheds kept (world.unhold ref) after ∧ after.held = (world.unhold ref).held :=
    Host.sheds_release (hUnhold ▸ hKept) fun other hOther => ⟨depth, by
      rw [List.mem_singleton.mp hOther]
      exact hItem⟩
  have hLetGo : world.letGo ref = after := congrArg Prod.snd hRelease
  rw [hLetGo]
  exact ⟨(Sheds.of_held _).trans hSheds, hAfter.trans (congrArg World.held hUnhold)⟩

namespace Sheds

/-- An object that is no item stays as it is. -/
theorem view_eq (hSheds : Sheds kept before after) (hValue : (before.host.body ref).isValue = false) :
    after.host.view ref = before.host.view ref ∧ after.host.isLive ref = before.host.isLive ref := by
  cases ref with
  | atom value => exact ⟨rfl, rfl⟩
  | object address =>
    rcases hSheds.object address with hSame | ⟨_, hItem, _⟩
    · exact ⟨by rw [Heap.view, Heap.view, hSame], by rw [Heap.isLive, Heap.isLive, hSame]⟩
    · rw [hValue] at hItem
      cases hItem

/-- Items that something refers to stay as they are. -/
theorem keeps (hSheds : Sheds kept before after) :
    before.host.Keeps after.host fun ref => ref.isObject = true →
      (after.holdingOnly kept).isReferenced ref = true := by
  have hSame (depth : Nat) (ref : Ref) (hItem : before.host.IsItem depth ref)
      (hReferenced : ref.isObject = true → (after.holdingOnly kept).isReferenced ref = true) :
      after.host.view ref = before.host.view ref ∧ after.host.isLive ref = true := by
    cases ref with
    | atom value => exact ⟨rfl, rfl⟩
    | object address =>
      rcases hSheds.object address with hSame | ⟨_, _, hFree⟩
      · exact ⟨by rw [Heap.view, Heap.view, hSame],
          by rw [Heap.isLive, hSame]; exact hItem.isBuiltin.live⟩
      · rw [hReferenced rfl] at hFree
        cases hFree
  refine ⟨hSame, fun depth ref hItem hReferenced inner hInner _ => ?_⟩
  obtain ⟨hView, hLive⟩ := hSame depth ref hItem hReferenced
  have hRefers : after.host.refersTo inner = true := Heap.refersTo_of_mem hLive (by
    rwa [Heap.body, hView])
  exact World.isReferenced_of_refersTo hRefers

end Sheds

end World

end HeapBridge
