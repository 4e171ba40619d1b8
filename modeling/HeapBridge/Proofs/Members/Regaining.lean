import HeapBridge.Proofs.Scenes.Reading
import HeapBridge.Proofs.Scenes.Removing
import HeapBridge.Proofs.Scenes.Scalars
/-!
Regaining elements. An element that is handed out and crosses back is itself, unless its native form is a scalar:
then it is a new object of a built-in type, or the one of its kind. Whether the set finds the element by that hangs
on what the new object hashes to and compares to, which need not be what the element does.
-/
namespace HeapBridge

open Host (Body Fault Heap Object Ref SetTable)

variable {scene : Scene} {world before after : World} {set ref found other : Ref} {table left : SetTable}
  {value : NativeValue} {hash : Int} {body : Body}

namespace Scene

/-- As what the native form of an object crosses back: what that is known by, and which object it is unless that
is new. -/
structure Regained where
  origin : Origin
  ref? : Option Ref

def regained (scene : Scene) (world : World) (ref : Ref) : Regained :=
  let body := world.host.body ref
  match body.scalar? with
  | some _ => ⟨originOf body, (Heap.atom? body).map .atom⟩
  | none => ⟨scene.origin world ref, some ref⟩

/-- What a container is answered about an element when it looks for that. -/
def Regained.verdict (scene : Scene) (world : World) (key : Regained) (ref : Ref) : Except Fault Bool :=
  if key.ref? = some ref then .ok true else scene.conduct.equal (scene.origin world ref) key.origin

/-- Whether the native form of an object is one of which a container finds an element, without a comparison that
fails. -/
structure Regains (scene : Scene) (world : World) (table : SetTable) (ref : Ref) (hash : Int) (found : Ref) :
    Prop where
  items : scene.conduct.items (scene.regained world ref).origin
  hashed : scene.conduct.hash (scene.regained world ref).origin = .ok hash
  entry : (hash, found) ∈ table.entries
  same : (scene.regained world ref).verdict scene world found = .ok true
  compared : ∀ other, (hash, other) ∈ table.entries →
    ∃ answer, (scene.regained world ref).verdict scene world other = .ok answer

theorem regained_of_scalar (hScalar : (world.host.body ref).scalar? = some value) :
    scene.regained world ref = ⟨originOf (world.host.body ref), (Heap.atom? (world.host.body ref)).map .atom⟩ := by
  rw [regained, hScalar]

theorem regained_of_not_scalar (hScalar : (world.host.body ref).scalar? = none) :
    scene.regained world ref = ⟨scene.origin world ref, some ref⟩ := by
  rw [regained, hScalar]

/-- The native form of an element crosses back as what is said of it. -/
theorem Contains.crosses (hContains : scene.Contains world set table) (hOpens : scene.Opens) (hRef : ref ∈ table.toList)
    (hStands : value.StandsFor world ref) (hItems : scene.conduct.items (scene.regained world ref).origin) :
    scene.Presents world value ∧
      scene.origin (value.crossed world).2 (value.crossed world).1 = (scene.regained world ref).origin ∧
        ∀ other ∈ table.toList, scene.verdict (value.crossed world).2 (value.crossed world).1 other =
          (scene.regained world ref).verdict scene world other := by
  have hThere := hContains.concerns ref hRef
  have hSelf (hNone : (world.host.body ref).scalar? = none) (hOwned : value.IsOwned world)
      (hCrossed : value.crossed world = (ref, world)) :
      scene.Presents world value ∧
        scene.origin (value.crossed world).2 (value.crossed world).1 = (scene.regained world ref).origin ∧
          ∀ other ∈ table.toList, scene.verdict (value.crossed world).2 (value.crossed world).1 other =
            (scene.regained world ref).verdict scene world other := by
    rw [regained_of_not_scalar hNone, hCrossed]
    refine ⟨⟨hOwned, by rwa [hCrossed]⟩, rfl, fun other _ => ?_⟩
    rw [verdict, Regained.verdict]
    exact if_congr (by rw [Option.some.injEq, eq_comm]) rfl rfl
  cases hStands with
  | scalar hScalar =>
    have hBody := NativeValue.body?_of_scalar? hScalar
    have hMakes := hContains.follows.makes_crossed hOpens hBody
    rw [regained_of_scalar hScalar] at hItems ⊢
    generalize world.host.body ref = body at *
    have hOwned : value.IsOwned world := by
      constructor <;> rintro _ rfl <;> cases hBody
    refine ⟨⟨hOwned, hMakes.concerns hItems⟩, hMakes.origin, fun other hOther => ?_⟩
    have hLive := (hContains.concerns other hOther).live
    rw [verdict, Regained.verdict, hMakes.origin, Scene.origin_eq (congrArg Object.body (hMakes.stays other hLive))]
    refine if_congr ?_ rfl rfl
    -- What was made just now is none of the elements, unless it is one of a kind.
    rw [value.crossed_of_body? hBody]
    unfold Heap.make
    cases hAtom : Heap.atom? body with
    | some atom => exact ⟨fun hSame => congrArg some hSame.symm, fun hSame => (Option.some.inj hSame).symm⟩
    | none =>
      refine iff_of_false (fun hSame => ?_) fun hSame => by cases hSame
      subst hSame
      obtain ⟨object, hObject⟩ := Option.isSome_iff_exists.mp hLive
      exact absurd (Heap.lt_size_of_object? hObject) (Nat.lt_irrefl _)
  | @proxy elements address hSet hBacking =>
    refine hSelf (by rw [hSet]; rfl) ⟨fun other hSame => (by cases hSame), fun other hSame => ?_⟩ ?_
    · cases hSame
      exact ⟨ref, hBacking⟩
    · change ((world.native.backing? address).getD .nil, world) = _
      rw [hBacking]
      rfl
  | object hScalar _ =>
    refine hSelf hScalar ⟨fun other hSame => ?_, fun other hSame => by cases hSame⟩ rfl
    cases hSame
    exact World.isReferenced_iff.mpr (.inr (hContains.mentions hRef))

/-- So a container finds what is said to be found by it. -/
theorem Contains.locates (hContains : scene.Contains world set table) (hOpens : scene.Opens) (hRef : ref ∈ table.toList)
    (hStands : value.StandsFor world ref) (hRegains : scene.Regains world table ref hash found) :
    scene.Presents world value ∧
      scene.Locates (value.crossed world).2 table (value.crossed world).1 hash found := by
  obtain ⟨hPresents, hOrigin, hVerdict⟩ := hContains.crosses hOpens hRef hStands hRegains.items
  have hElement {other : Ref} (hOther : (hash, other) ∈ table.entries) : other ∈ table.toList :=
    List.mem_map_of_mem (f := Prod.snd) hOther
  refine ⟨hPresents, hOrigin ▸ hRegains.hashed, hRegains.entry, ?_, fun other hOther => ?_⟩
  · rw [hVerdict found (hElement hRegains.entry)]
    exact hRegains.same
  · rw [hVerdict other (hElement hOther)]
    exact hRegains.compared other hOther

/-- Whether each element of a table is regained by its own native form. -/
def RegainsAll (scene : Scene) (world : World) (table : SetTable) : Prop :=
  ∀ hash ref, (hash, ref) ∈ table.entries → scene.Regains world table ref hash ref

end Scene

/-! Scalars are regained. -/

/-- A scalar that is told apart by its content is known by that when it is made again. -/
theorem Scene.scalar_originOf (hValued : body.isValued = true) (start : World) (ref : Ref) :
    (Scene.originOf body).scalar start = body.scalar ref := by
  unfold Scene.originOf
  cases hAtom : Heap.atom? body with
  | none => exact Body.scalar_of_isValued hValued _ _
  | some atom =>
    have hBody := congrArg Object.body (Heap.view_make start.host body)
    rw [Heap.make, hAtom] at hBody
    exact (congrArg (Body.scalar (.atom atom)) hBody).trans (Body.scalar_of_isValued hValued _ _)

/-- What is known by the content that is compared has that hash. -/
theorem Origin.scalarHash_eq {origin : Origin} {start : World} (hScalar : origin.scalar start = body.scalar ref) :
    origin.scalarHash start = body.scalarHash ref := by
  cases origin <;> exact Body.scalarHash_congr hScalar

open Classical in
/-- An element that is one of its kind or told apart by its content is regained, if it is stored under its hash. -/
theorem World.CollectsScalars.regains (hCollects : world.CollectsScalars set) (hBody : world.host.body set = .set table)
    (hEntry : (hash, ref) ∈ table.entries) (hHash : (world.host.body ref).scalarHash ref = hash)
    (hTold : ref.isObject = true → (world.host.body ref).isValued = true) :
    (Scene.scalars world {set}).Regains world table ref hash ref := by
  have hContains := hCollects.contains hBody
  have hThere := hContains.concerns ref (List.mem_map_of_mem (f := Prod.snd) hEntry)
  have hReads := Scene.readsAs (fun _ hSet => Set.mem_singleton_iff.mp hSet ▸ ⟨table, hBody⟩) hContains.follows
    hThere.live hThere.items
  have hCompared (key : Scene.Regained) (other : Ref) :
      ∃ answer, key.verdict (Scene.scalars world {set}) world other = .ok answer := by
    unfold Scene.Regained.verdict
    split <;> exact ⟨_, rfl⟩
  cases hScalar : (world.host.body ref).scalar? with
  | none =>
    have hRegained := (Scene.scalars world {set}).regained_of_not_scalar hScalar
    refine ⟨by rw [hRegained]; exact hThere.items, ?_, hEntry, by rw [hRegained]; exact if_pos rfl,
      fun other _ => hCompared _ other⟩
    rw [hRegained]
    exact congrArg Except.ok (hReads.hash.symm.trans hHash)
  | some value =>
    have hRegained := (Scene.scalars world {set}).regained_of_scalar hScalar
    by_cases hValued : (world.host.body ref).isValued = true
    · have hSame := Scene.scalar_originOf hValued world ref
      refine ⟨by rw [hRegained]; exact Scene.items_originOf hReads.isScalar.scalar fun _ => hValued, ?_, hEntry, ?_,
        fun other _ => hCompared _ other⟩
      · rw [hRegained]
        exact congrArg Except.ok ((Origin.scalarHash_eq hSame).trans hHash)
      · have hNumber : ((Scene.scalars world {set}).origin world ref).isNan world = false := by
          rw [← hReads.isNan, ← Bool.not_eq_true]
          exact fun hNan => Body.not_isValued_of_isNan hNan hValued
        have hEqual : (Scene.scalars world {set}).conduct.equal ((Scene.scalars world {set}).origin world ref)
            (Scene.originOf (world.host.body ref)) = .ok true := by
          refine congrArg Except.ok ?_
          rw [hNumber, decide_eq_true (hReads.scalar.symm.trans hSame.symm)]
          rfl
        rw [hRegained, Scene.Regained.verdict]
        split
        · rfl
        · exact hEqual
    · cases ref with
      | object address => exact absurd (hTold rfl) hValued
      | atom atom =>
        cases atom with
        | nil =>
          refine ⟨?_, ?_, hEntry, by rw [hRegained]; exact if_pos rfl, fun other _ => hCompared _ other⟩
          · rw [hRegained]
            exact Scene.items_originOf hReads.isScalar.scalar nofun
          · rw [hRegained]
            exact congrArg Except.ok hHash
        | emptyTuple | notImplemented => cases hScalar
        | _ => exact absurd rfl hValued

end HeapBridge
