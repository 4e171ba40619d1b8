import HeapBridge.Proofs.Scenes.Growing
/-!
Asking sets for values. A value crosses as an object that the set is asked for, and that is gone afterwards if it
was made for that. What is answered hangs on what the object is known by, so it is the same wherever the world
has but grown. What a set holds is handed out in its native form.
-/
namespace HeapBridge

open Host (Body Context Fault Heap HostM Object Ref SetTable)

variable {scene : Scene} {world before middle after : World} {ref set key other : Ref} {refs : List Ref}
  {table : SetTable} {α β : Type} {value : NativeValue} {body : Body}

/-- Whether all that is there, in either heap, is what it was. There may be more. -/
structure World.Extends (before after : World) : Prop where
  scripts : after.host.scripts = before.host.scripts
  remains : ∀ ref, before.host.isLive ref = true → after.host.isLive ref = true
  stays : ∀ ref, before.host.isLive ref = true → after.host.view ref = before.host.view ref
  backing : ∀ address ref, before.native.backing? address = some ref → after.native.backing? address = some ref
  held : before.held ⊆ after.held
  mentions : ∀ ref, before.Mentions ref → after.Mentions ref

namespace World.Extends

theorem refl (world : World) : World.Extends world world :=
  ⟨rfl, fun _ hLive => hLive, fun _ _ => rfl, fun _ _ hBacking => hBacking, .refl _, fun _ hMentions => hMentions⟩

theorem referenced (hExtends : before.Extends after) (hReferenced : before.isReferenced ref = true) :
    after.isReferenced ref = true := by
  rw [World.isReferenced_iff] at hReferenced ⊢
  exact hReferenced.imp (hExtends.held ·) (hExtends.mentions ref)

theorem trans (hFirst : before.Extends middle) (hSecond : middle.Extends after) : before.Extends after where
  scripts := hSecond.scripts.trans hFirst.scripts
  remains ref hLive := hSecond.remains ref (hFirst.remains ref hLive)
  stays ref hLive := (hSecond.stays ref (hFirst.remains ref hLive)).trans (hFirst.stays ref hLive)
  backing address ref hBacking := hSecond.backing address ref (hFirst.backing address ref hBacking)
  held := List.Subset.trans hFirst.held hSecond.held
  mentions ref hMentions := hSecond.mentions ref (hFirst.mentions ref hMentions)

theorem body_eq (hExtends : before.Extends after) (hLive : before.host.isLive ref = true) :
    after.host.body ref = before.host.body ref := congrArg Object.body (hExtends.stays ref hLive)

theorem scripted?_eq (hExtends : before.Extends after) (hLive : before.host.isLive ref = true) (method : String) :
    after.host.scripted? ref method = before.host.scripted? ref method := by
  rw [Heap.scripted?, Heap.scripted?, Heap.script?, Heap.script?, hExtends.stays ref hLive, hExtends.scripts]

end World.Extends

/-- What refers to a proxy's host object does so while the proxy is there. -/
theorem Native.Heap.backing?_of_object? {heap later : Native.Heap} {address : Nat}
    (hLater : ∀ object, heap.object? address = some object → later.object? address = some object)
    (hBacking : heap.backing? address = some ref) : later.backing? address = some ref := by
  unfold backing? at hBacking ⊢
  cases hObject : heap.object? address with
  | none =>
    rw [hObject] at hBacking
    cases hBacking
  | some object => rwa [hLater object hObject, ← hObject]

/-- The host object behind a proxy is what the proxy refers to. -/
theorem Native.Heap.mem_of_backing? {heap : Native.Heap} {address : Nat} (hBacking : heap.backing? address = some ref) :
    ∃ object, heap.object? address = some object ∧ ref ∈ object.payload.references := by
  unfold backing? at hBacking
  split at hBacking
  next hObject =>
    cases hBacking
    exact ⟨_, hObject, List.mem_cons_self⟩
  next => cases hBacking

/-- Whoever looks at an old object finds it unchanged in the grown heap. -/
theorem World.Grows.extends (hGrows : before.Grows after) : before.Extends after where
  scripts := hGrows.scripts
  remains ref hLive := (hGrows.isLive_eq ref).trans hLive
  stays ref _ := hGrows.view_eq ref
  backing address _ hBacking := Native.Heap.backing?_of_object? (hGrows.native address) hBacking
  held ref hHeld := by
    obtain ⟨extra, hPerm, _⟩ := hGrows.held
    exact hPerm.mem_iff.mpr (List.mem_append_right extra hHeld)
  mentions _ := hGrows.mentions_iff.mpr

theorem World.extends_holdAll (world : World) (refs : List Ref) : world.Extends (world.holdAll refs) :=
  ⟨rfl, fun _ hLive => hLive, fun _ _ => rfl, fun _ _ hBacking => hBacking,
    List.subset_append_right refs world.held, fun _ => World.mentions_held.mpr⟩

/-- A new object does not get in the way of the old ones. -/
theorem World.extends_allocate (world : World) (body : Body) :
    world.Extends { world with host := (world.host.allocate { body }).2 } := by
  have hStays (ref : Ref) (hLive : world.host.isLive ref = true) :
      (world.host.allocate { body }).2.view ref = world.host.view ref ∧
        (world.host.allocate { body }).2.isLive ref = true := by
    cases ref with
    | atom value => exact ⟨rfl, rfl⟩
    | object address =>
      obtain ⟨object, hObject⟩ := Option.isSome_iff_exists.mp hLive
      rw [Heap.view, Heap.view, Heap.isLive, Heap.object?_allocate_of_lt (Heap.lt_size_of_object? hObject)]
      exact ⟨rfl, hLive⟩
  refine ⟨rfl, fun ref hLive => (hStays ref hLive).2, fun ref hLive => (hStays ref hLive).1,
    fun _ _ hBacking => hBacking, .refl _, fun ref hMentions => ?_⟩
  rcases hMentions with ⟨hObject, hRef⟩ | ⟨number, hRef⟩ | hRef | ⟨hObject, hRef⟩ | ⟨hScript, hRef⟩
  · exact .proxy hObject hRef
  · exact .cursor number hRef
  · exact .converter hRef
  · exact .object ((Heap.object?_allocate_of_lt (Heap.lt_size_of_object? hObject)).trans hObject) hRef
  · exact .script hScript hRef

/-- Whether the class of an object leaves it to sets what is in it and how it is iterated over. -/
structure World.IsPlain (world : World) (set : Ref) : Prop where
  contains : world.host.scripted? set "__contains__" = none
  iterates : world.host.scripted? set "__iter__" = none

theorem World.IsPlain.extends (hPlain : before.IsPlain set) (hExtends : before.Extends after)
    (hLive : before.host.isLive set = true) : after.IsPlain set :=
  ⟨(hExtends.scripted?_eq hLive _).trans hPlain.contains, (hExtends.scripted?_eq hLive _).trans hPlain.iterates⟩

/-- Whether a native value is one that native code can have: what it refers to is there, and is referred to, as by
the value itself. -/
structure NativeValue.IsOwned (world : World) (value : NativeValue) : Prop where
  host : ∀ ref, value = .host ref → world.isReferenced ref = true
  proxy : ∀ address, value = .set address → ∃ ref, world.native.backing? address = some ref

namespace NativeValue

theorem IsOwned.extends (hOwned : value.IsOwned before) (hExtends : before.Extends after) : value.IsOwned after where
  host ref hValue := hExtends.referenced (hOwned.host ref hValue)
  proxy address hValue := by
    obtain ⟨ref, hBacking⟩ := hOwned.proxy address hValue
    exact ⟨ref, hExtends.backing address ref hBacking⟩

/-- What crosses as it is is referred to. -/
theorem IsOwned.isReferenced (hOwned : value.IsOwned world) (hBody : value.body? = none) :
    world.isReferenced (value.crossed world).1 = true := by
  cases value with
  | host ref => exact hOwned.host ref rfl
  | set address =>
    obtain ⟨ref, hBacking⟩ := hOwned.proxy address rfl
    have hCrossed : ((NativeValue.set address).crossed world).1 = ref := by
      change (world.native.backing? address).getD .nil = ref
      rw [hBacking]
      rfl
    rw [hCrossed, World.isReferenced_iff]
    obtain ⟨object, hObject, hRef⟩ := Native.Heap.mem_of_backing? hBacking
    exact .inr (.proxy hObject hRef)
  | _ => cases hBody

/-- What crosses as it is is the same object wherever there is but more. -/
theorem IsOwned.crossed_eq (hOwned : value.IsOwned before) (hExtends : before.Extends after)
    (hBody : value.body? = none) : (value.crossed after).1 = (value.crossed before).1 := by
  cases value with
  | host ref => rfl
  | set address =>
    obtain ⟨ref, hBacking⟩ := hOwned.proxy address rfl
    change (after.native.backing? address).getD .nil = (before.native.backing? address).getD .nil
    rw [hBacking, hExtends.backing address ref hBacking]
  | _ => cases hBody

/-- What was there is there when a value crosses. -/
theorem extends_crossed (value : NativeValue) (world : World) : world.Extends (value.crossed world).2 := by
  cases hBody : value.body? with
  | none =>
    rw [value.crossed_of_not_body? hBody]
    exact .refl world
  | some body =>
    rw [value.crossed_of_body? hBody]
    unfold Heap.make
    cases Heap.atom? body with
    | some value => exact .refl world
    | none => exact world.extends_allocate body

theorem references_of_body? (hBody : value.body? = some body) : body.references = [] ∧ body.isHandle = false := by
  cases value <;> cases hBody <;> exact ⟨rfl, rfl⟩

/-- A value crosses as what is referred to anyway, or as a new object. -/
theorem IsOwned.crossed_cases (hOwned : value.IsOwned world) :
    ((value.crossed world).2 = world ∧
      ∀ ref ∈ [(value.crossed world).1], ref.isObject = true → world.isReferenced ref = true) ∨
    ∃ body : Body, body.references = [] ∧ body.isHandle = false ∧ value.crossed world =
      (.object world.host.cells.size, { world with host := (world.host.allocate { body }).2 }) := by
  cases hBody : value.body? with
  | none =>
    refine .inl ⟨value.crossed_of_not_body? hBody world, fun ref hRef _ => ?_⟩
    rw [List.mem_singleton.mp hRef]
    exact hOwned.isReferenced hBody
  | some body =>
    have hCrossed := value.crossed_of_body? hBody world
    unfold Heap.make at hCrossed
    cases hAtom : Heap.atom? body with
    | some atom =>
      rw [hAtom] at hCrossed
      refine .inl ⟨by rw [hCrossed], fun ref hRef hObject => ?_⟩
      rw [List.mem_singleton.mp hRef, hCrossed] at hObject
      cases hObject
    | none =>
      rw [hAtom] at hCrossed
      obtain ⟨hRefs, hHandle⟩ := references_of_body? hBody
      exact .inr ⟨body, hRefs, hHandle, hCrossed⟩

end NativeValue

namespace Scene

/-! Where a scene is followed. -/

theorem Concerns.extends (hConcerns : scene.Concerns before key) (hExtends : before.Extends after) :
    scene.Concerns after key :=
  ⟨hExtends.remains key hConcerns.live, origin_eq (hExtends.body_eq hConcerns.live) ▸ hConcerns.items⟩

theorem Contains.extends (hContains : scene.Contains before set table) (hExtends : before.Extends after)
    (hFollows : scene.Follows after) : scene.Contains after set table where
  follows := hFollows
  live := hExtends.remains set hContains.live
  elements := by
    rw [hExtends.body_eq hContains.live]
    exact hContains.elements
  concerns ref hRef := (hContains.concerns ref hRef).extends hExtends

/-- An element is referred to by what holds it. -/
theorem Contains.mentions (hContains : scene.Contains world set table) (hRef : ref ∈ table.toList) :
    world.Mentions ref := by
  have hRefers := Host.refersTo_of_element hContains.live hContains.elements hRef
  rcases Host.Heap.refersTo_iff.mp hRefers with ⟨address, object, hObject, hThere⟩ | ⟨script, hScript, hThere⟩
  · exact .object hObject hThere
  · exact .script hScript hThere

/-- A scalar crosses as a new object of a built-in type, unless there is one of the kind. -/
theorem Follows.makes_crossed (hFollows : scene.Follows world) (hOpens : scene.Opens)
    (hBody : value.body? = some body) : scene.Makes world body (value.crossed world).1 (value.crossed world).2 := by
  rw [value.crossed_of_body? hBody]
  apply hFollows.makes_make hOpens
  rw [(NativeValue.references_of_body? hBody).1]
  exact List.forall_mem_nil _

/-- A scene is followed on when a value crosses. -/
theorem Follows.crossed (hFollows : scene.Follows world) (hOpens : scene.Opens) (value : NativeValue) :
    scene.Follows (value.crossed world).2 ∧ world.Extends (value.crossed world).2 := by
  refine ⟨?_, value.extends_crossed world⟩
  cases hBody : value.body? with
  | none =>
    rw [value.crossed_of_not_body? hBody]
    exact hFollows
  | some body => exact (hFollows.makes_crossed hOpens hBody).keeps.follows

/-- Whether a value crosses as an object that is concerned. -/
structure Presents (scene : Scene) (world : World) (value : NativeValue) : Prop where
  owned : value.IsOwned world
  concerns : scene.Concerns (value.crossed world).2 (value.crossed world).1

/-- It does so wherever there is but more. -/
theorem Presents.extends (hPresents : scene.Presents before value) (hOpens : scene.Opens)
    (hBefore : scene.Follows before) (hExtends : before.Extends after) (hFollows : scene.Follows after) :
    scene.Presents after value := by
  refine ⟨hPresents.owned.extends hExtends, ?_⟩
  have hConcerns := hPresents.concerns
  cases hBody : value.body? with
  | none =>
    rw [value.crossed_of_not_body? hBody] at hConcerns ⊢
    rw [hPresents.owned.crossed_eq hExtends hBody]
    exact hConcerns.extends hExtends
  | some body =>
    have hItems := hConcerns.items
    rw [(hBefore.makes_crossed hOpens hBody).origin] at hItems
    exact (hFollows.makes_crossed hOpens hBody).concerns hItems

/-- What is answered hangs on what the objects are known by. -/
theorem answered_congr {key other : Ref}
    (hElements : ∀ ref ∈ table.toList, scene.origin after ref = scene.origin before ref)
    (hKey : scene.origin after other = scene.origin before key) (hBody : after.host.body other = before.host.body key)
    (hSame : ∀ ref ∈ table.toList, ref = other ↔ ref = key) :
    scene.answered after table other = scene.answered before table key := by
  have hAsked : scene.asked after table other = scene.asked before table key := by
    rw [asked, asked, hKey]
    congr 1
    funext hash
    apply SetTable.containsBy_congr
    intro ref hRef
    rw [verdict, verdict, hKey, hElements ref hRef]
    exact if_congr (hSame ref hRef) rfl rfl
  have hFrozen (elements : SetTable) :
      scene.askedFrozen after table elements = scene.askedFrozen before table elements := by
    rw [askedFrozen, askedFrozen]
    congr 1
    funext hash
    apply SetTable.containsBy_congr
    intro ref hRef
    rw [hElements ref hRef]
  rw [answered, answered, hAsked, hBody]
  simp only [hFrozen]

/-- What a container answers that is asked for a value. -/
def lookup (scene : Scene) (world : World) (table : SetTable) (value : NativeValue) : Except Fault Bool :=
  scene.answered (value.crossed world).2 table (value.crossed world).1

/-- It answers the same wherever there is but more. -/
theorem Contains.lookup_eq (hContains : scene.Contains before set table) (hOpens : scene.Opens)
    (hPresents : scene.Presents before value) (hExtends : before.Extends after) (hFollows : scene.Follows after) :
    scene.lookup after table value = scene.lookup before table value := by
  have hLater := hPresents.extends hOpens hContains.follows hExtends hFollows
  obtain ⟨_, hCrossed⟩ := hContains.follows.crossed hOpens value
  obtain ⟨_, hCrossedLater⟩ := hFollows.crossed hOpens value
  have hElements : ∀ ref ∈ table.toList,
      scene.origin (value.crossed after).2 ref = scene.origin (value.crossed before).2 ref := by
    intro ref hRef
    have hLive := (hContains.concerns ref hRef).live
    rw [origin_eq (hCrossedLater.body_eq (hExtends.remains ref hLive)), origin_eq (hCrossed.body_eq hLive)]
    exact origin_eq (hExtends.body_eq hLive)
  cases hBody : value.body? with
  | none =>
    have hLive := hPresents.concerns.live
    have hSame := hPresents.owned.crossed_eq hExtends hBody
    rw [lookup, lookup, hSame]
    rw [value.crossed_of_not_body? hBody] at hLive hElements ⊢
    rw [value.crossed_of_not_body? hBody] at hElements ⊢
    exact answered_congr hElements (origin_eq (hExtends.body_eq hLive)) (hExtends.body_eq hLive) fun _ _ => Iff.rfl
  | some body =>
    have hMakes := hContains.follows.makes_crossed hOpens hBody
    have hMakesLater := hFollows.makes_crossed hOpens hBody
    refine answered_congr hElements (hMakesLater.origin.trans hMakes.origin.symm) ?_ fun ref hRef => ?_
    · have hView (world : World) : (value.crossed world).2.host.body (value.crossed world).1 = body := by
        rw [value.crossed_of_body? hBody]
        exact congrArg Object.body (Heap.view_make world.host body)
      rw [hView, hView]
    · -- What was made just now is none of the elements, unless it is one of a kind.
      have hLive := (hContains.concerns ref hRef).live
      rw [value.crossed_of_body? hBody, value.crossed_of_body? hBody]
      unfold Heap.make
      cases hAtom : Heap.atom? body with
      | some atom => exact Iff.rfl
      | none =>
        have hNew {world : World} (hThere : world.host.isLive ref = true) : ref ≠ .object world.host.cells.size := by
          rintro rfl
          obtain ⟨object, hObject⟩ := Option.isSome_iff_exists.mp hThere
          exact absurd (Heap.lt_size_of_object? hObject) (Nat.lt_irrefl _)
        exact iff_of_false (hNew (hExtends.remains ref hLive)) (hNew hLive)

/-! Host calls, and the values that they are made with. -/

/-- What a host call behind an operation on a foreign set comes to for native code. -/
def reported (scene : Scene) (operation : Operation) (result : Except Fault α) : Except BridgeError α :=
  result.mapError fun fault => .contractViolation operation (scene.conduct.text fault)

/-- A host call that fails is told with the report that the scene has of its fault. -/
theorem Follows.exists_contract {call : HostM α} {result : Except Fault α} (hFollows : scene.Follows world)
    (hGoverns : scene.Governs) (operation : Operation) (hPeeks : call.Peeks {} world result)
    (hFails : ∀ fault, result = .error fault →
      ∃ origin, scene.conduct.items origin ∧ scene.conduct.Fails origin fault) :
    ∃ after, BridgeM.Yields (BridgeM.contract operation call) world (scene.reported operation result) after := by
  obtain ⟨after, hRun, hCalm⟩ := hPeeks
  have hCall : HostM.runOn call world = (result, after) := hRun
  cases result with
  | ok answer =>
    refine ⟨after, ?_, hCalm.grows⟩
    rw [BridgeM.contract, BridgeM.run_host, hCall]
    rfl
  | error fault =>
    obtain ⟨origin, hItems, hFault⟩ := hFails fault rfl
    obtain ⟨hText, hLater⟩ := hGoverns.report after (hFollows.undisturbed hCalm) origin hItems fault hFault
    refine ⟨_, ?_, (hCalm.trans hLater).grows⟩
    rw [BridgeM.contract, BridgeM.run_host, hCall, reported]
    dsimp only
    rw [hText]
    rfl

/-- Something is done with the object that a value crosses as, which is gone afterwards if it is new. -/
theorem Follows.exists_crossing {result : Except BridgeError α} (hFollows : scene.Follows world)
    (hOwned : value.IsOwned world) (next : Ref → BridgeM α)
    (hNext : BridgeM.Yields (next (value.crossed world).1)
      ((value.crossed world).2.holdAll [(value.crossed world).1]) result middle) :
    ∃ after, BridgeM.Yields (value.toHost >>= fun item => BridgeM.keeping [item] (next item)) world result after ∧
      after.native = middle.native := by
  rcases hOwned.crossed_cases with ⟨hWorld, hReferenced⟩ | ⟨body, hRefs, hHandle, hCrossed⟩
  · rw [hWorld] at hNext
    have hYields := hNext.keeping hReferenced
    have hNative : (middle.unholdAll [(value.crossed world).1]).native = middle.native := rfl
    refine ⟨_, ⟨?_, hYields.grows⟩, hNative⟩
    rw [run_bind, value.run_toHost, hWorld]
    exact hYields.run
  · rw [hCrossed] at hNext
    have hMade : value.toHost.run.run world =
        (.ok (.object world.host.cells.size), { world with host := (world.host.allocate { body }).2 }) := by
      rw [value.run_toHost, hCrossed]
    apply BridgeM.Yields.keeping_made next hFollows hMade hNext.run hNext.grows hHandle
    rw [hRefs]
    exact List.forall_mem_nil _

/-! What a set contains. -/

theorem peeks_contains_of {context : Context} {result : Except Fault Bool} (hPlain : world.IsPlain set)
    (hElements : (world.host.body set).elements? = some table)
    (hContains : (Host.SetObject.contains Host.ops set key).Peeks context world result) :
    (Host.contains Host.ops set key).Peeks context world result := by
  obtain ⟨after, hEval, hCalm⟩ := hContains
  exact ⟨after, (Host.eval_contains hPlain.contains hElements).trans hEval, hCalm⟩

namespace Contains

/-- What is answered fails only as objects concerned do. -/
theorem exists_fails (hContains : scene.Contains world set table) (hGoverns : scene.Governs) (hOpens : scene.Opens)
    (hKey : scene.Concerns world key) {fault : Fault} (hAnswered : scene.answered world table key = .error fault) :
    ∃ origin, scene.conduct.items origin ∧ scene.conduct.Fails origin fault := by
  rw [answered] at hAnswered
  cases hAsked : scene.asked world table key with
  | ok answer =>
    rw [hAsked] at hAnswered
    cases hAnswered
  | error other =>
    rw [hAsked] at hAnswered
    have hSelf (hSame : (.error other : Except Fault Bool) = .error fault) :
        ∃ origin, scene.conduct.items origin ∧ scene.conduct.Fails origin fault := by
      cases hSame
      exact ⟨_, hKey.items, hContains.fails_of_asked hAsked⟩
    split at hAnswered
    next _ _ first elements hError hBody =>
      cases hError
      split at hAnswered
      next hType =>
        have hItems := hContains.items_frozen hGoverns hKey hOpens hAsked hType hBody
        refine ⟨_, hItems, ?_⟩
        rw [askedFrozen] at hAnswered
        cases hHash : scene.conduct.hash (.made (.frozenset elements.copied)) with
        | error first =>
          rw [hHash] at hAnswered
          cases hAnswered
          exact .hash hHash
        | ok hash =>
          rw [hHash] at hAnswered
          change (table.placeOf hash _).map _ = _ at hAnswered
          cases hPlace : table.placeOf hash
              (fun ref => scene.conduct.equal (scene.origin world ref) (.made (.frozenset elements.copied))) with
          | ok place =>
            rw [hPlace] at hAnswered
            cases hAnswered
          | error first =>
            rw [hPlace] at hAnswered
            cases hAnswered
            obtain ⟨ref, hEntry, hVerdict⟩ := SetTable.exists_fault hPlace
            exact .equal (hContains.concerns ref (List.mem_map_of_mem (f := Prod.snd) hEntry)).items hVerdict
      next => exact hSelf hAnswered
    next => exact hSelf hAnswered

/-- A proxy of a set answers as the set does. -/
theorem exists_contains (hContains : scene.Contains world set table) (hGoverns : scene.Governs)
    (hOpens : scene.Opens) (hPlain : world.IsPlain set) (hPresents : scene.Presents world value) :
    ∃ after, BridgeM.Yields (ForeignSet.contains set value) world
      (scene.reported .contains (scene.lookup world table value)) after := by
  obtain ⟨hFollows, hExtends⟩ := hContains.follows.crossed hOpens value
  have hHeld : scene.Follows ((value.crossed world).2.holdAll [(value.crossed world).1]) := by
    apply hFollows.holdAll
    intro ref hRef
    rw [List.mem_singleton.mp hRef]
    exact hPresents.concerns.live
  have hBoth := hExtends.trans ((value.crossed world).2.extends_holdAll [(value.crossed world).1])
  have hThere := hContains.extends hBoth hHeld
  have hKey : scene.Concerns ((value.crossed world).2.holdAll [(value.crossed world).1]) (value.crossed world).1 :=
    ⟨hPresents.concerns.live, hPresents.concerns.items⟩
  have hPeeks : (Host.contains Host.ops set (value.crossed world).1).Peeks {} _
      (scene.lookup world table value) := peeks_contains_of (hPlain.extends hBoth hContains.live) hThere.elements
    (hThere.peeks_contains hGoverns hKey (Nat.zero_le 1) hOpens)
  obtain ⟨middle, hCall⟩ := hHeld.exists_contract hGoverns .contains hPeeks
    fun fault hFault => hThere.exists_fails hGoverns hOpens hKey hFault
  obtain ⟨after, hYields, _⟩ := hContains.follows.exists_crossing hPresents.owned
    (fun item => BridgeM.contract .contains (Host.contains Host.ops set item)) hCall
  exact ⟨after, hYields⟩

end Contains

/-- Whether nothing concerned is equal to an object that is known by something, whatever it hashes to. -/
def Odd (scene : Scene) (origin : Origin) : Prop :=
  ∀ world, scene.Follows world → ∀ key, world.host.isLive key = true → scene.origin world key = origin →
    ∀ context : Context, context.nesting ≤ 1 →
      (∃ hash, (Host.ops.hash key).Peeks context world (.ok hash)) ∧
        ∀ element, world.host.isLive element = true → scene.conduct.items (scene.origin world element) →
          (Host.equal Host.ops element key).Peeks context world (.ok false)

/-- No container has an object that is odd, unless it is one of the elements. -/
theorem Contains.peeks_contains_odd {context : Context} (hContains : scene.Contains world set table)
    (hOdd : scene.Odd (scene.origin world key)) (hKey : world.host.isLive key = true) (hNew : key ∉ table.toList)
    (hNesting : context.nesting ≤ 1) : (Host.SetObject.contains Host.ops set key).Peeks context world (.ok false) := by
  obtain ⟨⟨hash, hHash⟩, _⟩ := hOdd world hContains.follows key hKey rfl context hNesting
  have hAsk : (do
      let hash ← Host.ops.hash key
      Host.SetObject.containsHashed Host.ops set key hash).Peeks context world (.ok false) := by
    refine hHash.bind fun middle hCalm => ?_
    have hMiddle := hContains.undisturbed hCalm
    have hLater : middle.host.isLive key = true := (hCalm.isLive_eq key).trans hKey
    have hSearch : (Host.SetObject.containsHashed Host.ops set key hash).Peeks context middle
        (table.containsBy hash fun ref => if ref = key then .ok true else .ok false) :=
      Host.SetObject.peeks_containsHashed hMiddle.elements (fun ref hEntry after hAfter => ?_) (if_pos rfl)
    · have hOther : ∀ ref ∈ table.toList, ref ≠ key := by
        rintro ref hRef rfl
        exact hNew hRef
      rwa [SetTable.containsBy_eq_false fun ref hRef => if_neg (hOther ref hRef)] at hSearch
    · have hThere := hMiddle.undisturbed hAfter
      have hRef : ref ∈ table.toList := List.mem_map_of_mem (f := Prod.snd) hEntry
      have hStill : after.host.isLive key = true := (hAfter.isLive_eq key).trans hLater
      refine hThere.follows.peeks_matching_of (hThere.isReferenced hRef) hStill fun last hLast hHost => ?_
      have hBody : last.host.body = world.host.body := by
        rw [hHost]
        exact funext fun ref => (hAfter.body_eq ref).trans (hCalm.body_eq ref)
      have hOrigin (other : Ref) : scene.origin last other = scene.origin world other :=
        origin_eq (congrFun hBody other)
      obtain ⟨_, hEqual⟩ := hOdd last hLast key (by rw [hHost]; exact hStill) (hOrigin key) context hNesting
      refine hEqual ref (by rw [hHost]; exact (hThere.concerns ref hRef).live) ?_
      rw [hOrigin]
      exact (hContains.concerns ref hRef).items
  obtain ⟨after, hEval, hCalm⟩ := hAsk
  refine ⟨after, ?_, hCalm⟩
  rw [Host.SetObject.contains, Host.SetObject.eval_keyed, hEval]

/-- Whether a set gives this answer when it is asked for a value, wherever there is but more. -/
def Sees (scene : Scene) (world : World) (set : Ref) (value : NativeValue) (result : Except Fault Bool) : Prop :=
  ∀ after, world.Extends after → scene.Follows after →
    ∃ last, BridgeM.Yields (ForeignSet.contains set value) after (scene.reported .contains result) last

/-- A value that crosses is looked for as what it crosses as. -/
theorem Contains.sees (hContains : scene.Contains world set table) (hGoverns : scene.Governs) (hOpens : scene.Opens)
    (hPlain : world.IsPlain set) (hPresents : scene.Presents world value) :
    scene.Sees world set value (scene.lookup world table value) := by
  intro after hExtends hFollows
  rw [← hContains.lookup_eq hOpens hPresents hExtends hFollows]
  exact (hContains.extends hExtends hFollows).exists_contains hGoverns hOpens
    (hPlain.extends hExtends hContains.live) (hPresents.extends hOpens hContains.follows hExtends hFollows)

/-- Whether a value crosses as a new object that is odd. -/
def IsOdd (scene : Scene) (value : NativeValue) : Prop :=
  ∃ body, value.body? = some body ∧ Heap.atom? body = none ∧ scene.Odd (.made body)

/-- No set has a value that is odd. -/
theorem Contains.sees_odd (hContains : scene.Contains world set table) (hOpens : scene.Opens) (hGoverns : scene.Governs)
    (hPlain : world.IsPlain set) (hOdd : scene.IsOdd value) : scene.Sees world set value (.ok false) := by
  obtain ⟨body, hBody, hAtom, hOdd⟩ := hOdd
  intro after hExtends hFollows
  have hAfter := hContains.extends hExtends hFollows
  have hOwned : value.IsOwned after := by
    constructor <;> rintro _ rfl <;> cases hBody
  obtain ⟨hLater, hCrossed⟩ := hFollows.crossed hOpens value
  have hMakes := hFollows.makes_crossed hOpens hBody
  have hHeld : scene.Follows ((value.crossed after).2.holdAll [(value.crossed after).1]) := by
    apply hLater.holdAll
    intro ref hRef
    rw [List.mem_singleton.mp hRef]
    exact hMakes.live
  have hBoth := hCrossed.trans ((value.crossed after).2.extends_holdAll [(value.crossed after).1])
  have hThere := hAfter.extends hBoth hHeld
  have hOrigin : scene.origin ((value.crossed after).2.holdAll [(value.crossed after).1]) (value.crossed after).1 =
      .made body := by
    refine Eq.trans hMakes.origin ?_
    rw [originOf, hAtom]
  have hNew : (value.crossed after).1 ∉ table.toList := by
    intro hElement
    obtain ⟨atom, hSame⟩ := hMakes.apart _ (hAfter.concerns _ hElement).live rfl
    rw [value.crossed_of_body? hBody, Heap.make, hAtom] at hSame
    cases hSame
  have hPeeks : (Host.contains Host.ops set (value.crossed after).1).Peeks {} _ (.ok false) :=
    peeks_contains_of ((hPlain.extends hExtends hContains.live).extends hBoth hAfter.live) hThere.elements
      (hThere.peeks_contains_odd (hOrigin ▸ hOdd) hMakes.live hNew (Nat.zero_le 1))
  obtain ⟨middle, hCall⟩ := hHeld.exists_contract hGoverns .contains hPeeks
    fun fault hFault => by cases hFault
  obtain ⟨last, hYields, _⟩ := hFollows.exists_crossing hOwned
    (fun item => BridgeM.contract .contains (Host.contains Host.ops set item)) hCall
  exact ⟨last, hYields⟩

end Scene

/-! What is handed out. -/

/-- Whether a native value is the native form of a host object. -/
inductive NativeValue.StandsFor (world : World) (ref : Ref) : NativeValue → Prop where
  | scalar {value : NativeValue} (hScalar : (world.host.body ref).scalar? = some value) : StandsFor world ref value
  | proxy {elements : SetTable} {address : Nat} (hSet : world.host.body ref = .set elements)
    (hBacking : world.native.backing? address = some ref) : StandsFor world ref (.set address)
  | object (hScalar : (world.host.body ref).scalar? = none)
    (hSet : ∀ elements, world.host.body ref ≠ .set elements) : StandsFor world ref (.host ref)

/-- It is so as long as the object and the proxies are what they are. -/
theorem NativeValue.StandsFor.given (hStands : value.StandsFor before ref)
    (hBody : after.host.body ref = before.host.body ref) (hNative : after.native = before.native) :
    value.StandsFor after ref := by
  cases hStands with
  | scalar hScalar => exact .scalar (by rw [hBody]; exact hScalar)
  | proxy hSet hBacking => exact .proxy (by rw [hBody]; exact hSet) (by rw [hNative]; exact hBacking)
  | object hScalar hSet => exact .object (by rw [hBody]; exact hScalar) (by rw [hBody]; exact hSet)

/-- The native form stands for the object in the grown heap as well. -/
theorem NativeValue.StandsFor.grows (hStands : value.StandsFor before ref) (hGrows : before.Grows after) :
    value.StandsFor after ref := by
  cases hStands with
  | scalar hScalar => exact .scalar (by rw [hGrows.body_eq]; exact hScalar)
  | proxy hSet hBacking =>
    exact .proxy (by rw [hGrows.body_eq]; exact hSet) (hGrows.extends.backing _ _ hBacking)
  | object hScalar hSet =>
    exact .object (by rw [hGrows.body_eq]; exact hScalar) (by rw [hGrows.body_eq]; exact hSet)

namespace World

/-- A reference is taken to what is referred to anyway. -/
theorem grows_hold (hMentions : world.Mentions ref) : world.Grows (world.hold ref) :=
  ⟨rfl, Nat.le_refl _, fun _ => rfl, rfl, rfl, .refl _, fun _ _ hThere => hThere,
    fun _ => mentions_held.mp, [ref], .refl _, fun _ hOther => List.mem_singleton.mp hOther ▸ hMentions⟩

end World

/-- What is referred to is handed out in its native form. -/
theorem NativeValue.exists_fromHost (hUnrefused : true ∉ world.refusals) (hMentions : world.Mentions ref) :
    ∃ value after, BridgeM.Yields (fromHost ref) world (.ok value) after ∧ value.StandsFor after ref := by
  obtain ⟨value, after, hRun, hTaken⟩ := exists_taken (fun _ _ => hUnrefused : world.Grants ref)
  cases hTaken with
  | scalar hScalar => exact ⟨_, _, ⟨hRun, .refl world⟩, .scalar hScalar⟩
  | object hScalar hSet => exact ⟨_, _, ⟨hRun, World.grows_hold hMentions⟩, .object hScalar hSet⟩
  | @proxy elements address after hSet hHost _ hNative =>
    have hStill : true ∉ (world.hold ref).refusals := hUnrefused
    obtain ⟨last, hCreate, hSame, hLeft, hCursors, hRegistry, hRefusals, hObjects⟩ :=
      ForeignSet.exists_create (World.head?_refusals hStill) ref
    obtain rfl : after = last := by
      rw [fromHost, run_get, hSet] at hRun
      change ((ForeignSet.create ref >>= fun address => Pure.pure (NativeValue.set address)) : BridgeM _).run.run
        (world.hold ref) = _ at hRun
      rw [run_bind, hCreate] at hRun
      exact (Prod.ext_iff.mp hRun).2.symm
    have hKept : after.held = world.held := hLeft.trans (List.erase_cons_head ref world.held)
    have hOld (address : Nat) (object : Native.Object) (hThere : world.native.object? address = some object) :
        address ≠ world.native.cells.size := by
      rintro rfl
      exact absurd (Native.Heap.lt_size_of_cell? (Native.Heap.object?_eq_some_iff.mp hThere)) (Nat.lt_irrefl _)
    refine ⟨_, _, ⟨hRun, by rw [hSame]; rfl, by rw [hSame]; rfl, fun _ => by rw [hSame]; rfl, hCursors, hRegistry,
      hRefusals, fun address object hThere => ?_, fun other hOther => ?_, [], ?_, List.forall_mem_nil _⟩,
      .proxy (hHost ▸ hSet) hNative.backing?⟩
    · rw [hObjects]
      exact (if_neg (hOld address object hThere)).trans hThere
    · rcases hOther with ⟨hObject, hRef⟩ | ⟨number, hRef⟩ | hRef | ⟨hObject, hRef⟩ | ⟨hScript, hRef⟩
      · rw [hObjects] at hObject
        split at hObject
        · cases hObject
          rwa [List.mem_singleton.mp hRef]
        · exact .proxy hObject hRef
      · exact .cursor number (World.cursor_congr hCursors number ▸ hRef)
      · exact .converter (hRegistry ▸ hRef)
      · exact .object (hSame ▸ hObject) hRef
      · exact .script (hSame ▸ hScript) hRef
    · rw [hKept]
      exact .refl _

end HeapBridge
