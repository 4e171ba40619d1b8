import HeapBridge.Proofs.Custody.Adoption
import HeapBridge.Proofs.Members.Regaining
import HeapBridge.Proofs.Ownership.Lives
import HeapBridge.Proofs.Scenes.Walking
/-!
Using a set through a proxy. As long as native code owns a reference to the proxy, the set behind it is there,
whatever goes with the elements that are taken out. An element that the native form of one regains is found, and
taken out.
-/
namespace HeapBridge

open Host (Body Fault Heap HostM Object Ref SetTable)

variable {scene : Scene} {world before middle after : World} {proxy : Nat} {set ref found : Ref}
  {table left : SetTable} {value : NativeValue} {hash : Int} {holdings others : Multiset Holding} {α : Type}
  {may : Deed → Prop}

/-- A proxy that is owned goes on to be one of the same host object. -/
theorem Moves.backing? {start finish : Account} (moves : Moves may start finish) (hBalanced : start.Balanced)
    (hOwned : .reference proxy ∈ finish.holdings) (hBacking : start.world.native.backing? proxy = some set) :
    finish.world.native.backing? proxy = some set := by
  obtain ⟨object, hObject, hPayload⟩ : ∃ object, start.world.native.object? proxy = some object ∧
      object.payload = .foreignSet set := by
    unfold Native.Heap.backing? at hBacking
    split at hBacking
    next hObject =>
      cases hBacking
      exact ⟨_, hObject, rfl⟩
    next => cases hBacking
  obtain ⟨ends, hLives⟩ := moves.lives hBalanced
  rcases hLives.kept proxy object hObject with hEnd | ⟨other, hOther, hSame⟩
  · obtain ⟨before, after, hBefore, hEnds, hAfter⟩ := hLives.ended _ hEnd
    have hMiddle := hEnds.move.balanced (hBefore.balanced hBalanced)
    have hGone := hAfter.vacated hMiddle hEnds.vacated
    obtain ⟨other, hOther⟩ := Native.Heap.OwnedBy.exists_object (moves.balanced hBalanced) proxy
      (Multiset.mem_add.mpr (.inl hOwned))
    rw [Native.Heap.object?_of_vacant hGone.1] at hOther
    cases hOther
  · obtain ⟨count, payload⟩ := other
    obtain rfl : payload = .foreignSet set := hSame.trans hPayload
    rw [Native.Heap.backing?, hOther]

/-- What an operation hands on comes by moves. -/
theorem Transfers.moves_of_run {operation : BridgeM α} {given : α → Estate} {result : Except BridgeError α}
    {owned : Multiset Holding} (hTransfers : Transfers may (.ofNative owned) world 0 operation given)
    (hRun : operation.run.run world = (result, after)) :
    Moves may ⟨owned, world⟩ ⟨(onSuccess given result).1 + owned, after⟩ := by
  have hMoves := Hands.moves hTransfers
  rw [hRun] at hMoves
  rw [Prod.fst_zero, zero_add] at hMoves
  exact hMoves

namespace Scene

/-- Whether native code that owns these holdings uses a set through a proxy. -/
structure Uses (scene : Scene) (holdings : Multiset Holding) (proxy : Nat) (set : Ref) (table : SetTable)
    (world : World) : Prop where
  contains : scene.Contains world set table
  body : world.host.body set = .set table
  balanced : Account.Balanced ⟨holdings, world⟩
  backing : world.native.backing? proxy = some set

namespace Uses

theorem mentions (hUses : scene.Uses holdings proxy set table world) : world.Mentions set := by
  obtain ⟨object, hObject, hRef⟩ := Native.Heap.mem_of_backing? hUses.backing
  exact .proxy hObject hRef

/-- It is used on where the world has but grown. -/
theorem grows (hUses : scene.Uses holdings proxy set table before) (hGrows : before.Grows after)
    (hMoves : Moves may ⟨holdings, before⟩ ⟨others, after⟩) : scene.Uses others proxy set table after where
  contains := hUses.contains.grows hGrows
  body := (hGrows.body_eq set).trans hUses.body
  balanced := hMoves.balanced hUses.balanced
  backing := hGrows.extends.backing _ _ hUses.backing

section Opens

variable (hOpens : scene.Opens) (hSet : set ∈ scene.sets)

include hOpens hSet

theorem isPlain (hUses : scene.Uses holdings proxy set table world) : world.IsPlain set := by
  obtain ⟨hLeaves, hIterates⟩ := hUses.contains.follows.leavesToSets hOpens hSet hUses.contains.live
  exact ⟨hLeaves.unscripted _ List.mem_cons_self, hIterates⟩

/-- The number of elements is told. -/
theorem run_count (hUses : scene.Uses holdings proxy set table world) :
    (ForeignSet.count set).run.run world = (.ok table.size, world) := by
  obtain ⟨hLeaves, _⟩ := hUses.contains.follows.leavesToSets hOpens hSet hUses.contains.live
  rw [ForeignSet.count_eq, BridgeM.contract, BridgeM.run_host,
    Host.runOn_length hUses.contains.elements (hLeaves.unscripted "__len__" (by simp))]

/-- It is used on with other elements, if the proxy is owned afterwards. -/
theorem retables (hUses : scene.Uses holdings proxy set table before) (hRetables : scene.Retables set left before after)
    (hMoves : Moves may ⟨holdings, before⟩ ⟨others, after⟩) (hOwned : .reference proxy ∈ others)
    (hLeft : left.toList ⊆ table.toList) : scene.Uses others proxy set left after := by
  have hBacking : after.native.backing? proxy = some set := hMoves.backing? hUses.balanced hOwned hUses.backing
  have hFollows := hRetables.keeps.follows
  have hLive : after.host.isLive set = true := by
    obtain ⟨object, hObject, hRef⟩ := Native.Heap.mem_of_backing? hBacking
    exact hFollows.whole set (World.isReferenced_iff.mpr (.inr (.proxy hObject hRef)))
  have hBody := hRetables.body hLive
  refine ⟨⟨hFollows, hLive, by rw [hBody]; rfl, fun ref hRef => ?_⟩, hBody,
    hMoves.balanced hUses.balanced, hBacking⟩
  have hBefore := hUses.contains.concerns ref (hLeft hRef)
  have hAfter := (hFollows.isLive_element hLive hBody hRef).2
  refine ⟨hAfter, ?_⟩
  rw [hRetables.keeps.origin_eq hOpens hSet hBefore.live hAfter]
  exact hBefore.items

variable (hGoverns : scene.Governs)

include hGoverns

/-- An element that the native form of one regains is found. -/
theorem exists_contains (hUses : scene.Uses holdings proxy set table world) (hSound : table.Sound) (hRef : ref ∈ table.toList)
    (hStands : value.StandsFor world ref) (hRegains : scene.Regains world table ref hash found) :
    ∃ after, BridgeM.Yields (ForeignSet.contains set value) world (.ok true) after := by
  obtain ⟨hPresents, hLocates⟩ := hUses.contains.locates hOpens hRef hStands hRegains
  obtain ⟨after, hYields⟩ := hUses.contains.exists_contains hGoverns hOpens (hUses.isPlain hOpens hSet) hPresents
  rw [lookup, hLocates.answered_eq hSound] at hYields
  exact ⟨after, hYields⟩

/-- What the native form of an element regains is taken out. -/
theorem exists_remove (hUses : scene.Uses holdings proxy set table world) (hSound : table.Sound) (hRef : ref ∈ table.toList)
    (hOwned : .reference proxy ∈ holdings) (hStands : value.StandsFor world ref)
    (hRegains : scene.Regains world table ref hash found) :
    ∃ after entry left, (ForeignSet.remove set value).run.run world = (.ok (), after) ∧
      table.entries.Perm (entry :: left.entries) ∧ left.Sound ∧ scene.Retables set left world after ∧
        scene.Uses holdings proxy set left after := by
  obtain ⟨hPresents, hLocates⟩ := hUses.contains.locates hOpens hRef hStands hRegains
  obtain ⟨hFollows, hExtends⟩ := hUses.contains.follows.crossed hOpens value
  have hKeeps : scene.Keeps {set} world (value.crossed world).2 := by
    cases hBody : value.body? with
    | none =>
      rw [value.crossed_of_not_body? hBody]
      exact .refl hUses.contains.follows
    | some body => exact (hUses.contains.follows.makes_crossed hOpens hBody).keeps.mono (Set.empty_subset _)
  have hHolds : scene.Keeps {set} (value.crossed world).2
      ((value.crossed world).2.holdAll [(value.crossed world).1]) := by
    refine hFollows.keeps_holdAll fun other hOther => ?_
    rw [List.mem_singleton.mp hOther]
    exact hPresents.concerns.live
  have hThere := hUses.contains.extends (hExtends.trans (World.extends_holdAll _ [(value.crossed world).1]))
    hHolds.follows
  have hBody : ((value.crossed world).2.holdAll [(value.crossed world).1]).host.body set = .set table :=
    (hExtends.body_eq hUses.contains.live).trans hUses.body
  have hKey : scene.Concerns ((value.crossed world).2.holdAll [(value.crossed world).1]) (value.crossed world).1 :=
    ⟨hPresents.concerns.live, hPresents.concerns.items⟩
  obtain ⟨index, other, middle, hElement, hCall, hRetables⟩ := hThere.exists_runOn_discard hGoverns hOpens hSet hBody
    hSound hKey
    ⟨hLocates.hashed, hLocates.entry, hLocates.same, hLocates.compared⟩
  obtain ⟨hLeft, hPerm⟩ := hSound.eraseAt hElement
  have hRun : (ForeignSet.remove set value).run.run world = (.ok (), middle.letGo (value.crossed world).1) := by
    rw [ForeignSet.remove_eq]
    rw [run_bind, value.run_toHost]
    exact ForeignSet.run_command hCall
  have hHeld : (value.crossed world).1 ∈ middle.held := by
    have hBalanced := (Host.call Host.ops set "discard" [(value.crossed world).1]).balanced {}
      ((value.crossed world).2.holdAll [(value.crossed world).1])
    rw [HostM.runOn] at hCall
    rw [hCall] at hBalanced
    exact hBalanced.mem_iff.mpr List.mem_cons_self
  have hGone := hRetables.trans hOpens hSet
    (hRetables.keeps.follows.keeps_giveBack hGoverns (hRetables.keeps.follows.isLive_of_held hHeld)).1
  have hWhole : scene.Retables set (table.eraseAt index) world (middle.letGo (value.crossed world).1) :=
    ⟨(hKeeps.trans hHolds).trans hGone.keeps, hGone.body⟩
  have hMoves := (ForeignSet.neutral_remove set value (fun _ => True) (.ofNative holdings) world).moves_of_run hRun
  rw [onSuccess_zero, Prod.fst_zero, zero_add] at hMoves
  refine ⟨_, _, _, hRun, hPerm, hLeft, hWhole, hUses.retables hOpens hSet hWhole hMoves hOwned fun other hOther => ?_⟩
  obtain ⟨entry, hEntry, rfl⟩ := List.mem_map.mp hOther
  exact List.mem_map_of_mem (hPerm.mem_iff.mpr (List.mem_cons_of_mem _ hEntry))

end Opens

end Uses

end Scene

end HeapBridge
