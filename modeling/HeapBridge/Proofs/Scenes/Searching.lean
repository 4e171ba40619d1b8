import HeapBridge.Proofs.Scenes.Peeking
/-!
Searching sets. Where a search in a table ends hangs on what is answered about the elements under the hash, and
a comparison that faults ends it, too. Wherever a scene is followed, a set is searched like its table.
-/
namespace HeapBridge

open Host (Context Fault Heap HostM Probe Ref SetTable)
open Host.SetObject (Place)

variable {scene : Scene} {world after : World} {ref set key : Ref} {table : SetTable} {context : Context}
  {hash : Int} {outcome : Ref → Except Fault Bool}

namespace Host

/-- Looks for an element under a hash about which the answer is yes, and ends with a fault that comes first. -/
def SetTable.trySearch (table : SetTable) (hash : Int) (outcome : Ref → Except Fault Bool) :
    Nat → Probe → Option Nat → Except Fault Place
  | 0, probe, reusable => .ok (.free probe.index reusable)
  | steps + 1, probe, reusable =>
    match table.seek hash probe reusable with
    | .free index reusable => .ok (.free index reusable)
    | .candidate index ref rest reusable =>
      match outcome ref with
      | .error fault => .error fault
      | .ok true => .ok (.stored index)
      | .ok false => table.trySearch hash outcome steps rest reusable

def SetTable.placeOf (table : SetTable) (hash : Int) (outcome : Ref → Except Fault Bool) : Except Fault Place :=
  table.trySearch hash outcome table.reach (table.start hash) none

def SetTable.containsBy (table : SetTable) (hash : Int) (outcome : Ref → Except Fault Bool) : Except Fault Bool :=
  (table.placeOf hash outcome).map fun
    | .stored _ => true
    | .free _ _ => false

/-- Where no comparison faults a search ends as it does with answers. -/
theorem SetTable.trySearch_eq {isSame : Ref → Bool}
    (hOutcome : ∀ ref, (hash, ref) ∈ table.entries → outcome ref = .ok (isSame ref)) (steps : Nat) (probe : Probe)
    (reusable : Option Nat) :
    table.trySearch hash outcome steps probe reusable = .ok (table.search hash isSame steps probe reusable) := by
  induction steps generalizing probe reusable with
  | zero => rfl
  | succ steps ih =>
    rw [trySearch, SetTable.search]
    cases hSeek : table.seek hash probe reusable with
    | free index reusable => rfl
    | candidate index ref rest reusable =>
      dsimp only
      rw [hOutcome ref (mem_entries_of_slot (slot_of_seek hSeek))]
      cases isSame ref with
      | true => rfl
      | false => exact ih rest reusable

/-- Where a search ends hangs on the answers about elements only. -/
theorem SetTable.trySearch_congr {others : Ref → Except Fault Bool}
    (hOutcome : ∀ ref, (hash, ref) ∈ table.entries → outcome ref = others ref) (steps : Nat) (probe : Probe)
    (reusable : Option Nat) :
    table.trySearch hash outcome steps probe reusable = table.trySearch hash others steps probe reusable := by
  induction steps generalizing probe reusable with
  | zero => rfl
  | succ steps ih =>
    rw [trySearch, trySearch]
    cases hSeek : table.seek hash probe reusable with
    | free index reusable => rfl
    | candidate index ref rest reusable =>
      dsimp only
      rw [hOutcome ref (mem_entries_of_slot (slot_of_seek hSeek))]
      rcases others ref with fault | _ | _
      · rfl
      · exact ih rest reusable
      · rfl

theorem SetTable.containsBy_congr {others : Ref → Except Fault Bool}
    (hOutcome : ∀ ref ∈ table.toList, outcome ref = others ref) :
    table.containsBy hash outcome = table.containsBy hash others := by
  have hEntries : ∀ ref, (hash, ref) ∈ table.entries → outcome ref = others ref := fun ref hEntry =>
    hOutcome ref (List.mem_map_of_mem (f := Prod.snd) hEntry)
  rw [containsBy, containsBy, placeOf, placeOf, trySearch_congr hEntries]

/-- Where nothing is equal nothing is found. -/
theorem SetTable.containsBy_eq_false (hOutcome : ∀ ref ∈ table.toList, outcome ref = .ok false) :
    table.containsBy hash outcome = .ok false := by
  have hSearch (steps : Nat) (probe : Probe) (reusable : Option Nat) : ∃ index other,
      table.trySearch hash outcome steps probe reusable = .ok (.free index other) := by
    induction steps generalizing probe reusable with
    | zero => exact ⟨_, _, rfl⟩
    | succ steps ih =>
      rw [trySearch]
      cases hSeek : table.seek hash probe reusable with
      | free index reusable => exact ⟨_, _, rfl⟩
      | candidate index ref rest reusable =>
        have hEntry := mem_entries_of_slot (slot_of_seek hSeek)
        dsimp only
        rw [hOutcome ref (List.mem_map_of_mem (f := Prod.snd) hEntry)]
        exact ih rest reusable
  obtain ⟨index, other, hPlace⟩ := hSearch table.reach (table.start hash) none
  rw [containsBy, placeOf, hPlace]
  rfl

/-- A fault that ends a search is one of a comparison with an element under the hash. -/
theorem SetTable.exists_fault {steps : Nat} {probe : Probe} {reusable : Option Nat} {fault : Fault}
    (hSearch : table.trySearch hash outcome steps probe reusable = .error fault) :
    ∃ ref, (hash, ref) ∈ table.entries ∧ outcome ref = .error fault := by
  induction steps generalizing probe reusable with
  | zero => cases hSearch
  | succ steps ih =>
    rw [trySearch] at hSearch
    cases hSeek : table.seek hash probe reusable with
    | free index reusable =>
      rw [hSeek] at hSearch
      cases hSearch
    | candidate index ref rest reusable =>
      rw [hSeek] at hSearch
      dsimp only at hSearch
      cases hOutcome : outcome ref with
      | error other =>
        rw [hOutcome] at hSearch
        cases hSearch
        exact ⟨ref, mem_entries_of_slot (slot_of_seek hSeek), hOutcome⟩
      | ok isSame =>
        rw [hOutcome] at hSearch
        cases isSame with
        | true => cases hSearch
        | false => exact ih hSearch

namespace SetObject

theorem peeks_table (hTable : (world.host.body set).elements? = some table) :
    (SetObject.table set).Peeks context world (.ok table) := by
  refine ⟨world, ?_, .refl world⟩
  rw [SetObject.table, HostM.eval_bind, HostM.eval_bodyOf]
  dsimp only
  rw [hTable]
  rfl

/-- A set is searched like its table if nothing becomes of it in between. -/
theorem peeks_locateAlong (hTable : (world.host.body set).elements? = some table)
    (hMatch : ∀ ref, (hash, ref) ∈ table.entries → ∀ after, world.Undisturbed after →
      (matching Host.ops ref key).Peeks context after (outcome ref))
    (hSelf : outcome key = .ok true) (adding : Bool) (again : SetTable → HostM Place) (steps : Nat)
    (probe : Probe) (reusable : Option Nat) :
    (locateAlong Host.ops set key hash adding again steps probe reusable).Peeks context world
      (table.trySearch hash outcome steps probe reusable) := by
  induction steps generalizing world probe reusable with
  | zero => exact .pure
  | succ steps ih =>
    rw [locateAlong, SetTable.trySearch]
    refine (peeks_table hTable).bind fun middle hCalm => ?_
    cases hSeek : table.seek hash probe reusable with
    | free index reusable => exact .pure
    | candidate index ref rest reusable =>
      dsimp only
      have hSlot := SetTable.slot_of_seek hSeek
      split
      next hKey =>
        rw [hKey, hSelf]
        exact .pure
      next =>
        have hCompared := hMatch ref (SetTable.mem_entries_of_slot hSlot) middle hCalm
        have hStill : (table.isSamePlace table && table.at? index = some ref) = true := by
          simp [SetTable.isSamePlace, SetTable.at?, hSlot, SetSlot.element?]
        cases hOutcome : outcome ref with
        | error fault =>
          rw [hOutcome] at hCompared
          exact hCompared.bind_error
        | ok isEqual =>
          rw [hOutcome] at hCompared
          refine hCompared.bind fun later hLater => ?_
          have hNext := hCalm.trans hLater
          have hSame : (later.host.body set).elements? = some table := by
            rw [hNext.body_eq]
            exact hTable
          refine (peeks_table hSame).bind fun last hLast => ?_
          rw [hStill]
          cases isEqual with
          | true =>
            simp only [Bool.or_true, Bool.and_true, if_true]
            exact .pure
          | false =>
            simp only [Bool.false_and, Bool.false_eq_true, if_false, if_true]
            refine ih ?_ (fun other hOther final hFinal => ?_) rest reusable
            · rw [hLast.body_eq]
              exact hSame
            · exact hMatch other hOther final ((hNext.trans hLast).trans hFinal)

/-- The search for a key only compares it with what is stored under its hash. -/
theorem peeks_locate (hTable : (world.host.body set).elements? = some table)
    (hMatch : ∀ ref, (hash, ref) ∈ table.entries → ∀ after, world.Undisturbed after →
      (matching Host.ops ref key).Peeks context after (outcome ref))
    (hSelf : outcome key = .ok true) (adding : Bool) :
    (locate Host.ops set key hash adding).Peeks context world (table.placeOf hash outcome) := by
  refine (peeks_table hTable).bind fun middle hCalm => ?_
  refine peeks_locateAlong ?_ (fun ref hRef after hAfter => hMatch ref hRef after (hCalm.trans hAfter)) hSelf adding
    _ _ _ _
  rw [hCalm.body_eq]
  exact hTable

/-- Membership only asks as well. -/
theorem peeks_containsHashed (hTable : (world.host.body set).elements? = some table)
    (hMatch : ∀ ref, (hash, ref) ∈ table.entries → ∀ after, world.Undisturbed after →
      (matching Host.ops ref key).Peeks context after (outcome ref))
    (hSelf : outcome key = .ok true) :
    (containsHashed Host.ops set key hash).Peeks context world (table.containsBy hash outcome) := by
  have hLocate := peeks_locate hTable hMatch hSelf false
  rw [SetTable.containsBy]
  cases hPlace : table.placeOf hash outcome with
  | error fault =>
    rw [hPlace] at hLocate
    exact hLocate.bind_error
  | ok place =>
    rw [hPlace] at hLocate
    refine hLocate.bind fun _ _ => ?_
    cases place <;> exact .pure

end SetObject

end Host

namespace Scene

/-- What a container is answered about an element when it looks for an object. -/
def verdict (scene : Scene) (world : World) (key ref : Ref) : Except Fault Bool :=
  if ref = key then .ok true else scene.conduct.equal (scene.origin world ref) (scene.origin world key)

/-- Whether an object can be looked for: it is there and is concerned. -/
structure Concerns (scene : Scene) (world : World) (key : Ref) : Prop where
  live : world.host.isLive key = true
  items : scene.conduct.items (scene.origin world key)

theorem Concerns.undisturbed (hConcerns : scene.Concerns world key) (hCalm : world.Undisturbed after) :
    scene.Concerns after key where
  live := by
    rw [hCalm.isLive_eq]
    exact hConcerns.live
  items := by
    rw [origin_eq (hCalm.body_eq key)]
    exact hConcerns.items

theorem verdict_undisturbed (hCalm : world.Undisturbed after) (key ref : Ref) :
    scene.verdict after key ref = scene.verdict world key ref := by
  rw [verdict, verdict, origin_eq (hCalm.body_eq key), origin_eq (hCalm.body_eq ref)]

/-- Whether all elements of a container are concerned, which is there. -/
structure Contains (scene : Scene) (world : World) (set : Ref) (table : SetTable) : Prop where
  follows : scene.Follows world
  live : world.host.isLive set = true
  elements : (world.host.body set).elements? = some table
  concerns : ∀ ref ∈ table.toList, scene.Concerns world ref

namespace Contains

/-- A calm change does not take a set out of the scene. -/
theorem undisturbed (hContains : scene.Contains world set table) (hCalm : world.Undisturbed after) :
    scene.Contains after set table where
  follows := hContains.follows.undisturbed hCalm
  live := by
    rw [hCalm.isLive_eq]
    exact hContains.live
  elements := by
    rw [hCalm.body_eq]
    exact hContains.elements
  concerns ref hRef := (hContains.concerns ref hRef).undisturbed hCalm

/-- The elements are referred to. -/
theorem isReferenced (hContains : scene.Contains world set table) (hRef : ref ∈ table.toList) :
    world.isReferenced ref = true :=
  World.isReferenced_of_refersTo (Host.refersTo_of_element hContains.live hContains.elements hRef)

/-- An element is compared with what is looked for. -/
theorem peeks_matching (hContains : scene.Contains world set table) (hGoverns : scene.Governs)
    (hKey : scene.Concerns world key) (hRef : ref ∈ table.toList) (hNesting : context.nesting ≤ 1) :
    (Host.matching Host.ops ref key).Peeks context world (scene.verdict world key ref) :=
  hContains.follows.peeks_matching hGoverns (hContains.isReferenced hRef) hKey.live
    (hContains.concerns ref hRef).items hKey.items hNesting

theorem peeks_locate (hContains : scene.Contains world set table) (hGoverns : scene.Governs)
    (hKey : scene.Concerns world key) (hNesting : context.nesting ≤ 1) (hash : Int) (adding : Bool) :
    (Host.SetObject.locate Host.ops set key hash adding).Peeks context world
      (table.placeOf hash (scene.verdict world key)) := by
  refine Host.SetObject.peeks_locate hContains.elements (fun ref hEntry after hCalm => ?_) (if_pos rfl) adding
  rw [← verdict_undisturbed hCalm]
  exact (hContains.undisturbed hCalm).peeks_matching hGoverns (hKey.undisturbed hCalm)
    (List.mem_map_of_mem (f := Prod.snd) hEntry) hNesting

theorem peeks_containsHashed (hContains : scene.Contains world set table) (hGoverns : scene.Governs)
    (hKey : scene.Concerns world key) (hNesting : context.nesting ≤ 1) (hash : Int) :
    (Host.SetObject.containsHashed Host.ops set key hash).Peeks context world
      (table.containsBy hash (scene.verdict world key)) := by
  refine Host.SetObject.peeks_containsHashed hContains.elements (fun ref hEntry after hCalm => ?_) (if_pos rfl)
  rw [← verdict_undisturbed hCalm]
  exact (hContains.undisturbed hCalm).peeks_matching hGoverns (hKey.undisturbed hCalm)
    (List.mem_map_of_mem (f := Prod.snd) hEntry) hNesting

theorem peeks_hash (hContains : scene.Contains world set table) (hGoverns : scene.Governs)
    (hKey : scene.Concerns world key) (hNesting : context.nesting ≤ 1) :
    (Host.ops.hash key).Peeks context world (scene.conduct.hash (scene.origin world key)) :=
  hGoverns.hash world hContains.follows key hKey.live hKey.items context hNesting

/-- Other things may be held that are there. -/
theorem of_held (hContains : scene.Contains world set table) {held : List Ref}
    (hHeld : ∀ ref ∈ held, world.host.isLive ref = true) : scene.Contains { world with held } set table where
  follows := hContains.follows.of_held hHeld
  live := hContains.live
  elements := hContains.elements
  concerns ref hRef := ⟨(hContains.concerns ref hRef).live, (hContains.concerns ref hRef).items⟩

theorem holdAll (hContains : scene.Contains world set table) {refs : List Ref}
    (hRefs : ∀ ref ∈ refs, world.host.isLive ref = true) : scene.Contains (world.holdAll refs) set table := by
  apply hContains.of_held
  intro ref hRef
  rcases List.mem_append.mp hRef with hNew | hOld
  · exact hRefs ref hNew
  · exact hContains.follows.isLive_of_held hOld

/-- The elements are what they were when something else was made. -/
theorem makes (hContains : scene.Contains world set table) {body : Host.Body}
    (hMakes : scene.Makes world body key after) : scene.Contains after set table where
  follows := hMakes.keeps.follows
  live := hMakes.remains set hContains.live
  elements := by
    rw [Heap.body, hMakes.stays set hContains.live]
    exact hContains.elements
  concerns ref hRef := by
    have hConcerns := hContains.concerns ref hRef
    refine ⟨hMakes.remains ref hConcerns.live, ?_⟩
    rw [origin_eq (congrArg Host.Object.body (hMakes.stays ref hConcerns.live))]
    exact hConcerns.items

end Contains

theorem Makes.concerns {body : Host.Body} (hMakes : scene.Makes world body key after)
    (hItems : scene.conduct.items (originOf body)) : scene.Concerns after key :=
  ⟨hMakes.live, hMakes.origin ▸ hItems⟩

/-- What asking a table for an object comes to, which is hashed and compared with the elements. -/
def asked (scene : Scene) (world : World) (table : SetTable) (key : Ref) : Except Fault Bool :=
  scene.conduct.hash (scene.origin world key) >>= fun hash => table.containsBy hash (scene.verdict world key)

def askedFrozen (scene : Scene) (world : World) (table elements : SetTable) : Except Fault Bool :=
  let frozen := Origin.made (.frozenset elements.copied)
  scene.conduct.hash frozen >>= fun hash =>
    table.containsBy hash fun ref => scene.conduct.equal (scene.origin world ref) frozen

def answered (scene : Scene) (world : World) (table : SetTable) (key : Ref) : Except Fault Bool :=
  match scene.asked world table key, world.host.body key with
  | .error fault, .set elements =>
    if fault.exception = "TypeError" then scene.askedFrozen world table elements else .error fault
  | result, _ => result

namespace Contains

variable (hContains : scene.Contains world set table) (hGoverns : scene.Governs) (hKey : scene.Concerns world key)
  (hNesting : context.nesting ≤ 1)

include hContains hGoverns hKey hNesting

/-- The hash comes first, and may fail first. -/
theorem peeks_asked :
    (do
      let hash ← Host.ops.hash key
      Host.SetObject.containsHashed Host.ops set key hash).Peeks context world
      (scene.asked world table key) := by
  have hHash := hContains.peeks_hash hGoverns hKey hNesting
  rw [asked]
  cases hAnswer : scene.conduct.hash (scene.origin world key) with
  | error fault =>
    rw [hAnswer] at hHash
    exact hHash.bind_error
  | ok hash =>
    rw [hAnswer] at hHash
    refine hHash.bind fun middle hCalm => ?_
    have hSearch := (hContains.undisturbed hCalm).peeks_containsHashed hGoverns (hKey.undisturbed hCalm) hNesting hash
    rwa [funext (verdict_undisturbed hCalm key)] at hSearch

omit hNesting hGoverns hKey in
/-- Asking fails only as objects concerned do. -/
theorem fails_of_asked {fault : Fault} (hAsked : scene.asked world table key = .error fault) :
    scene.conduct.Fails (scene.origin world key) fault := by
  rw [asked] at hAsked
  cases hHash : scene.conduct.hash (scene.origin world key) with
  | error other =>
    rw [hHash] at hAsked
    cases hAsked
    exact .hash hHash
  | ok hash =>
    rw [hHash] at hAsked
    change (table.placeOf hash _).map _ = _ at hAsked
    cases hPlace : table.placeOf hash (scene.verdict world key) with
    | ok place =>
      rw [hPlace] at hAsked
      cases hAsked
    | error other =>
      rw [hPlace] at hAsked
      cases hAsked
      obtain ⟨ref, hEntry, hVerdict⟩ := SetTable.exists_fault hPlace
      rw [verdict] at hVerdict
      split at hVerdict
      · cases hVerdict
      · exact .equal (hContains.concerns ref (List.mem_map_of_mem (f := Prod.snd) hEntry)).items hVerdict

omit hNesting in
/-- What is looked for instead of a set that has no hash is concerned. -/
theorem items_frozen (hOpens : scene.Opens) {fault : Fault} {elements : SetTable}
    (hAsked : scene.asked world table key = .error fault) (hType : fault.exception = "TypeError")
    (hBody : world.host.body key = .set elements) :
    scene.conduct.items (.made (.frozenset elements.copied)) := by
  have hFails := hContains.fails_of_asked hAsked
  by_cases hSets : ∃ set ∈ scene.sets, scene.origin world key = .known set
  · obtain ⟨set, hSet, hKnown⟩ := hSets
    obtain ⟨old, hOld⟩ := hOpens.follows.exists_table hSet (hOpens.live set hSet)
    have hOrigin : scene.bodyOf (scene.origin world key) = .set old := by
      rw [hKnown]
      exact hOld
    exact absurd hKnown ((hGoverns.frozen _ hKey.items old hOrigin fault hFails hType).1 set hSet)
  · have hOrigin := hContains.follows.body_eq hKey.live fun set hSet hKnown => hSets ⟨set, hSet, hKnown⟩
    exact (hGoverns.frozen _ hKey.items elements (hOrigin.symm.trans hBody) fault hFails hType).2

/-- A frozen set is asked for instead. -/
theorem peeks_askedFrozen {elements : SetTable} (hOpens : scene.Opens) (hBody : world.host.body key = .set elements)
    (hItems : scene.conduct.items (.made (.frozenset elements.copied))) :
    (do
      let hash ← Host.ops.hash (.object world.host.cells.size)
      Host.SetObject.containsHashed Host.ops set (.object world.host.cells.size) hash).Peeks context
        (World.holdAll [.object world.host.cells.size]
          { world with host := (world.host.allocate { body := .frozenset elements.copied }).2 })
        (scene.askedFrozen world table elements) := by
  have hMakes : scene.Makes world (.frozenset elements.copied) (.object world.host.cells.size)
      { world with host := (world.host.allocate { body := .frozenset elements.copied }).2 } := by
    refine hContains.follows.makes_allocate hOpens (fun ref hRef => ?_) rfl
    have hElement : ref ∈ elements.toList := (SetTable.toList_copied elements).subset hRef
    exact (hContains.follows.isLive_element hKey.live hBody hElement).2
  have hFrozen := hMakes.concerns hItems
  have hLive : ∀ ref ∈ [Ref.object world.host.cells.size],
      (world.host.allocate { body := .frozenset elements.copied }).2.isLive ref = true := by
    intro ref hRef
    rw [List.mem_singleton.mp hRef]
    exact hMakes.live
  have hThere := (hContains.makes hMakes).holdAll hLive
  have hAsk := hThere.peeks_asked hGoverns ⟨hFrozen.live, hFrozen.items⟩ hNesting
  have hOrigin : scene.origin (World.holdAll [.object world.host.cells.size]
      { world with host := (world.host.allocate { body := .frozenset elements.copied }).2 })
        (.object world.host.cells.size) = .made (.frozenset elements.copied) := hMakes.origin
  have hSame : scene.asked (World.holdAll [.object world.host.cells.size]
      { world with host := (world.host.allocate { body := .frozenset elements.copied }).2 }) table
        (.object world.host.cells.size) = scene.askedFrozen world table elements := by
    rw [asked, askedFrozen, hOrigin]
    congr 1
    funext hash
    apply SetTable.containsBy_congr
    intro ref hRef
    have hLive := (hContains.concerns ref hRef).live
    have hNe : ref ≠ .object world.host.cells.size := fun hSame => by
      obtain ⟨value, hAtom⟩ := hMakes.apart ref hLive hSame
      cases hAtom
    rw [verdict, if_neg hNe, hOrigin]
    exact congrArg (fun origin => scene.conduct.equal origin _)
      (origin_eq (congrArg Host.Object.body (hMakes.stays ref hLive)))
  rwa [hSame] at hAsk

/-- A set that is asked for an object answers as the scene has it, and nothing becomes of any object. -/
theorem peeks_contains (hOpens : scene.Opens) :
    (Host.SetObject.contains Host.ops set key).Peeks context world (scene.answered world table key) := by
  obtain ⟨middle, hAsk, hCalm⟩ := hContains.peeks_asked hGoverns hKey hNesting
  rw [answered]
  cases hAsked : scene.asked world table key with
  | ok answer =>
    rw [hAsked] at hAsk
    refine ⟨middle, ?_, hCalm⟩
    rw [Host.SetObject.contains, Host.SetObject.eval_keyed, hAsk]
  | error fault =>
    rw [hAsked] at hAsk
    have hOther (hNot : ∀ elements, world.host.body key = .set elements → fault.exception ≠ "TypeError") :
        (Host.SetObject.contains Host.ops set key).Peeks context world (.error fault) := by
      refine ⟨middle, Host.SetObject.eval_keyed_other hAsk fun elements hBody => hNot elements ?_, hCalm⟩
      rwa [hCalm.body_eq] at hBody
    cases hBody : world.host.body key with
    | set elements =>
      dsimp only
      split
      next hType =>
        have hItems := hContains.items_frozen hGoverns hKey hOpens hAsked hType hBody
        have hMiddle := hContains.undisturbed hCalm
        have hBodyMiddle : middle.host.body key = .set elements := (hCalm.body_eq key).trans hBody
        have hFrozen := hMiddle.peeks_askedFrozen hGoverns (hKey.undisturbed hCalm) hNesting hOpens hBodyMiddle hItems
        obtain ⟨after, hKeeping, hLater⟩ := hMiddle.follows.peeks_frozen hBodyMiddle hFrozen
        have hSame : scene.askedFrozen middle table elements = scene.askedFrozen world table elements := by
          have hOrigins : scene.origin middle = scene.origin world := funext fun ref => origin_eq (hCalm.body_eq ref)
          rw [askedFrozen, askedFrozen, hOrigins]
        refine ⟨after, ?_, hCalm.trans hLater⟩
        rw [Host.SetObject.contains, Host.SetObject.eval_keyed, hAsk]
        dsimp only
        rw [hBodyMiddle]
        dsimp only
        rw [if_pos hType, ← hSame]
        exact hKeeping
      next hType => exact hOther fun _ _ => hType
    | _ => exact hOther fun elements hSet => by rw [hBody] at hSet; cases hSet

end Contains

end Scene

end HeapBridge
