import HeapBridge.Proofs.Scenes.Reading
/-!
Scalars. Where all that is concerned is of a built-in type and holds nothing, hashing and comparing run no script,
and come to the same wherever the use of the sets leads. What was there is told apart as the scalar that it was,
and what is made meanwhile by its content. A new float that is no number is equal to nothing.
-/
namespace HeapBridge

open Host (Body Context Fault Heap HostM Object Ops Ref Scalar SetTable)

variable {start world : World} {sets : Set Ref} {ref set key : Ref} {body : Body} {context : Context}
  {value : NativeValue}

namespace Host

variable {host : Heap} {a b : Ref}

def Body.isNan (body : Body) : Bool := body.number? = some .nan

/-- Whether a body tells the object apart, whichever object it is. -/
def Body.isValued : Body → Bool
  | .text _ | .bytes _ => true
  | body => body.numeric?.isSome

/-- Whether an object is there, is of a built-in type and holds no others. -/
structure Heap.IsScalar (heap : Heap) (ref : Ref) : Prop where
  builtin : heap.IsBuiltin ref
  scalar : (heap.body ref).isScalar = true

instance (heap : Heap) (ref : Ref) : Decidable (heap.IsBuiltin ref) :=
  decidable_of_iff (heap.isLive ref = true ∧ (heap.view ref).script = none ∧ (heap.view ref).attributes = [])
    ⟨fun ⟨hLive, hScript, hAttributes⟩ => ⟨hLive, hScript, hAttributes⟩,
      fun ⟨hLive, hScript, hAttributes⟩ => ⟨hLive, hScript, hAttributes⟩⟩

instance (heap : Heap) (ref : Ref) : Decidable (heap.IsScalar ref) :=
  decidable_of_iff (heap.IsBuiltin ref ∧ (heap.body ref).isScalar = true)
    ⟨fun ⟨hBuiltin, hScalar⟩ => ⟨hBuiltin, hScalar⟩, fun ⟨hBuiltin, hScalar⟩ => ⟨hBuiltin, hScalar⟩⟩

/-- Scalars are items of any depth. -/
theorem Heap.IsScalar.isItem (hScalar : host.IsScalar a) : host.IsItem 1 a := by
  refine ⟨hScalar.builtin, ?_⟩
  have hBody := hScalar.scalar
  cases hCase : host.body a with
  | tuple | frozenset =>
    rw [hCase] at hBody
    cases hBody
  | _ =>
    rw [hCase] at hBody
    exact hBody

/-- A scalar is known by its value, and hashed by it. -/
theorem Heap.IsScalar.form (hScalar : host.IsScalar a) :
    host.content 1 a = Shape.scalar ((host.body a).scalar a) ∧ host.hashAs 1 a = (host.body a).scalarHash a := by
  have hBody := hScalar.scalar
  cases hScalar.isItem.form with
  | scalar _ hContent hHash => exact ⟨hContent, hHash⟩
  | tuple items hTuple =>
    rw [hTuple] at hBody
    cases hBody
  | frozen table hFrozen =>
    rw [hFrozen] at hBody
    cases hBody

/-- What is told apart by its content is a scalar. -/
theorem Body.isScalar_of_isValued (hValued : body.isValued = true) : body.isScalar = true := by
  cases body <;> first | rfl | cases hValued

/-- What has a value does not go by its reference. -/
theorem Body.scalar_of_isValued (hValued : body.isValued = true) (a b : Ref) : body.scalar a = body.scalar b := by
  rcases body.compared a with ⟨codes, rfl⟩ | ⟨content, rfl⟩ | ⟨hA, _⟩
  · rfl
  · rfl
  · rcases body.compared b with ⟨codes, rfl⟩ | ⟨content, rfl⟩ | ⟨hB, _⟩
    · rfl
    · rfl
    · have hNumber : body.numeric?.isSome = true := by
        cases body <;> first | exact hValued | cases hA
      rw [hA, hB]
      obtain ⟨number, hNumeric⟩ := Option.isSome_iff_exists.mp hNumber
      rw [hNumeric]
      rfl

/-- What is told apart by which object it is is that object. -/
theorem Body.eq_of_scalar (hScalar : body.scalar a = .identity b) : a = b := by
  rcases body.compared a with ⟨codes, rfl⟩ | ⟨content, rfl⟩ | ⟨hNumber, _⟩
  · cases hScalar
  · cases hScalar
  · rw [hNumber] at hScalar
    cases hNone : body.numeric? with
    | none =>
      rw [hNone] at hScalar
      exact Scalar.identity.inj hScalar
    | some number =>
      rw [hNone] at hScalar
      cases hScalar

/-- A float that is no number is told apart by which object it is only. -/
theorem Body.numeric?_of_isNan (hNan : body.isNan = true) : body.numeric? = none := by
  rw [isNan, decide_eq_true_eq] at hNan
  rw [numeric?, hNan]
  rfl

theorem Body.scalar_of_isNan (hNan : body.isNan = true) (a : Ref) : body.scalar a = .identity a := by
  rcases body.compared a with ⟨codes, rfl⟩ | ⟨content, rfl⟩ | ⟨hNumber, _⟩
  · cases hNan
  · cases hNan
  · rw [hNumber, Body.numeric?_of_isNan hNan]
    rfl

/-- NaN has no value to be told by. -/
theorem Body.not_isValued_of_isNan (hNan : body.isNan = true) : ¬ body.isValued = true := by
  have hNumber := numeric?_of_isNan hNan
  cases body with
  | text | bytes => cases hNan
  | _ =>
    rw [isValued, hNumber]
    · exact Bool.false_ne_true
    all_goals nofun

/-- All numbers but NaN have a value. -/
theorem Body.isValued_of_number {number : Binary64.Value} (hNan : ¬ body.isNan = true)
    (hNumber : body.number? = some number) : body.isValued = true := by
  have hSome : body.numeric?.isSome = true := by
    rw [isNan, hNumber, decide_eq_true_eq, Option.some.injEq] at hNan
    rw [numeric?, hNumber, Option.bind_some]
    cases number with
    | nan => exact absurd rfl hNan
    | infinite | finite => rfl
  cases body <;> first | rfl | exact hSome

/-- Of two objects that are compared by the same none is no number. -/
theorem Body.isNan_of_scalar {other : Body} (hOther : a ≠ b) (hSame : body.scalar a = other.scalar b) :
    body.isNan = false := by
  rcases Body.alike hSame with ⟨codes, rfl, _⟩ | ⟨content, rfl, _⟩ | ⟨_, hOne, _⟩
  · rfl
  · rfl
  · rw [← Bool.not_eq_true]
    exact fun hNan => hOther (hOne (numeric?_of_isNan hNan))

/-- A number is equal to itself. -/
theorem order?_self (number : Binary64.Value) : number.order? number = some .eq ↔ number ≠ .nan := by
  rw [Binary64.order?_eq_iff]
  cases number <;> simp [Binary64.Value.numeric?]

/-- What a scalar makes of itself. -/
theorem answers_opinion_self {ops : Ops} (hScalar : host.IsScalar a) :
    (opinion ops .equal a a).Answers context host (some (.bool (!(host.body a).isNan))) := by
  have hBody := hScalar.scalar
  refine .bind (.scripted? (hScalar.builtin.scripted? _)) (.bind .bodyOf ?_)
  cases hCase : host.body a with
  | float bits =>
    refine .bind .heap ?_
    have hNumber : (Body.float bits).number? = some (Binary64.decode bits) := rfl
    simp only [hCase, hNumber, Option.map_some, answer_equal, order?_self, Body.isNan, Option.some.injEq,
      decide_not]
    exact .pure
  | int number =>
    have hInt : (Body.int number).int? = some number := rfl
    have hNumber : (Body.int number).isNan = false := by
      simp [Body.isNan, Body.number?, Body.int?, Binary64.Value.ofInt]
    refine .bind .heap ?_
    simp only [hCase, hInt, hNumber, answer_equal, Option.some.injEq, compare_eq_iff_eq]
    exact .pure
  | bool truth =>
    have hInt : (Body.bool truth).int? = some (if truth then 1 else 0) := rfl
    have hNumber : (Body.bool truth).isNan = false := by
      simp [Body.isNan, Body.number?, Body.int?, Binary64.Value.ofInt]
    refine .bind .heap ?_
    simp only [hCase, hInt, hNumber, answer_equal, Option.some.injEq, compare_eq_iff_eq]
    exact .pure
  | text | bytes =>
    refine .bind .heap ?_
    simp only [hCase, answer_equal, Option.some.injEq, orderCodes_eq_iff]
    exact .pure
  | nil | plain | notImplemented | type =>
    have hOne : (identityOpinion ops .equal a a).Answers context host (some (.bool true)) := by
      rw [identityOpinion]
      simp only [if_true]
      exact .pure
    exact hOne
  | _ =>
    rw [hCase] at hBody
    cases hBody

/-- So a scalar is equal to itself, unless it is no number. -/
theorem answers_compared_self {ops : Ops} (hScalar : host.IsScalar a) (hNesting : context.nesting < nestingLimit) :
    (compared ops .equal a a).Answers context host (.bool (!(host.body a).isNan)) := by
  refine .nested hNesting (.bind .heap ?_)
  dsimp only
  cases host.derives a a with
  | true =>
    rw [if_pos rfl]
    exact .bind (answers_opinion_self hScalar) .pure
  | false =>
    rw [if_neg Bool.false_ne_true]
    exact .bind .pure (.bind (answers_opinion_self hScalar) .pure)

open Classical in
/-- Scalars are equal if they are compared by the same, unless they are no number. -/
theorem answers_equal (hA : host.IsScalar a) (hB : host.IsScalar b) (hNesting : context.nesting < nestingLimit) :
    (equal Host.ops a b).Answers context host
      (decide ((host.body a).scalar a = (host.body b).scalar b) && !(host.body a).isNan) := by
  obtain ⟨level, hOps⟩ := exists_ops
  rw [hOps]
  have hDecided {answer : Bool}
      (hCompared : (compared (Ops.ofDepth level) .equal a b).Answers context host (.bool answer)) :
      (equal (Ops.ofDepth (level + 1)) a b).Answers context host answer := by
    have hAsked : ((Ops.ofDepth (level + 1)).compare .equal a b).Answers context host (.bool answer) := hCompared
    exact .bind hAsked fun world _ => eval_decided_bool _ _ context world
  by_cases hOne : a = b
  · subst hOne
    rw [decide_eq_true rfl, Bool.true_and]
    exact hDecided (answers_compared_self hA hNesting)
  · have hCompared : (compared (Ops.ofDepth level) .equal a b).Answers context host
        (.bool (decide (host.content 1 a = host.content 1 b))) :=
      answers_compared hA.isItem hB.isItem hOne hNesting fun _ _ hNone => hNone.elim
    have hAlike : host.content 1 a = host.content 1 b ↔ (host.body a).scalar a = (host.body b).scalar b := by
      rw [hA.form.1, hB.form.1]
      exact ⟨Shape.scalar.inj, congrArg Shape.scalar⟩
    simp only [hAlike] at hCompared
    by_cases hSame : (host.body a).scalar a = (host.body b).scalar b
    · rw [hSame, Body.isNan_of_scalar hOne hSame]
      rw [decide_eq_true hSame] at hCompared
      rw [decide_eq_true rfl]
      exact hDecided hCompared
    · rw [decide_eq_false hSame] at hCompared ⊢
      exact hDecided hCompared

end Host

/-! What scalars are known by. -/

namespace Origin

def scalar (start : World) : Origin → Scalar
  | .known ref => (start.host.body ref).scalar ref
  | .made body => body.scalar .nil

def scalarHash (start : World) : Origin → Int
  | .known ref => (start.host.body ref).scalarHash ref
  | .made body => body.scalarHash .nil

def isNan (start : World) : Origin → Bool
  | .known ref => (start.host.body ref).isNan
  | .made body => body.isNan

end Origin

namespace Scene

open Classical in
/-- The scene in which scalars are used. Of those that are made meanwhile only which their content tells apart are
concerned. -/
noncomputable def scalars (start : World) (sets : Set Ref) : Scene where
  start
  sets
  conduct := {
    items
      | .known ref => start.host.IsScalar ref
      | .made body => body.isValued = true
    hash origin := .ok (origin.scalarHash start)
    equal left right := .ok (decide (left.scalar start = right.scalar start) && !left.isNan start)
    text _ := "" }

/-- What an object is that is concerned. -/
structure ReadsAs (start world : World) (ref : Ref) (origin : Origin) : Prop where
  isScalar : world.host.IsScalar ref
  scalar : (world.host.body ref).scalar ref = origin.scalar start
  hash : (world.host.body ref).scalarHash ref = origin.scalarHash start
  isNan : (world.host.body ref).isNan = origin.isNan start

section Scalars

variable (hSets : ∀ set ∈ sets, ∃ table, start.host.body set = .set table)

include hSets

/-- What was there is the scalar that it was. -/
theorem view_known (hFollows : (scalars start sets).Follows world) (hScalar : start.host.IsScalar ref)
    (hLive : world.host.isLive ref = true) : world.host.view ref = start.host.view ref := by
  refine hFollows.leaves.view_eq (fun hSet => ?_) hScalar.builtin.live hLive
  obtain ⟨table, hBody⟩ := hSets ref hSet
  have hNot := hScalar.scalar
  rw [hBody] at hNot
  cases hNot

omit hSets in
/-- What was made is of a built-in type. -/
theorem isScalar_made (hFollows : (scalars start sets).Follows world) {address : Nat}
    (hNew : start.host.cells.size ≤ address) (hLive : world.host.isLive (.object address) = true)
    (hScalar : (world.host.body (.object address)).isScalar = true) : world.host.IsScalar (.object address) := by
  obtain ⟨object, hObject⟩ := Option.isSome_iff_exists.mp hLive
  have hPlain := hFollows.made address object hNew hObject
  have hView := Heap.view_of_object? hObject
  exact ⟨⟨hLive, by rw [hView, hPlain], by rw [hView, hPlain]⟩, hScalar⟩

/-- In a scene of scalars every live one reads as it did at the start. -/
theorem readsAs (hFollows : (scalars start sets).Follows world) (hLive : world.host.isLive ref = true)
    (hItems : (scalars start sets).conduct.items ((scalars start sets).origin world ref)) :
    ReadsAs start world ref ((scalars start sets).origin world ref) := by
  have hKnown (hScalar : start.host.IsScalar ref) : ReadsAs start world ref (.known ref) := by
    have hView := view_known hSets hFollows hScalar hLive
    have hBody : world.host.body ref = start.host.body ref := congrArg Object.body hView
    refine ⟨⟨⟨hLive, hView ▸ hScalar.builtin.script, hView ▸ hScalar.builtin.attributes⟩, hBody ▸ hScalar.scalar⟩,
      ?_, ?_, ?_⟩ <;> rw [hBody] <;> rfl
  cases ref with
  | atom atom => exact hKnown hItems
  | object address =>
    rcases Nat.lt_or_ge address start.host.cells.size with hOld | hNew
    · have hOrigin := (scalars start sets).origin_of_old hOld world
      rw [hOrigin] at hItems ⊢
      exact hKnown hItems
    · have hOrigin := (scalars start sets).origin_of_new hNew world
      rw [hOrigin] at hItems ⊢
      exact ⟨isScalar_made hFollows hNew hLive (Body.isScalar_of_isValued hItems),
        Body.scalar_of_isValued hItems _ _, Body.scalarHash_congr (Body.scalar_of_isValued hItems _ _), rfl⟩

/-- No object asks to be told before it is given up. -/
theorem isQuiet (hMute : start.host.Mute) (hFollows : (scalars start sets).Follows world) {address : Nat}
    (hLive : world.host.isLive (.object address) = true) :
    (world.host.view (.object address)).finalized = true ∨
      world.host.scripted? (.object address) "__del__" = none := by
  rcases Nat.lt_or_ge address start.host.cells.size with hOld | hNew
  · have hBefore : (world.host.view (.object address)).script = (start.host.view (.object address)).script ∧
        (world.host.view (.object address)).finalized = (start.host.view (.object address)).finalized ∧
          start.host.isLive (.object address) = true := by
      by_cases hSet : Ref.object address ∈ sets
      · obtain ⟨table, hView⟩ := hFollows.table _ hSet hLive
        obtain ⟨before, hBody⟩ := hSets _ hSet
        rw [hView]
        exact ⟨rfl, rfl, Heap.isLive_of_body hBody⟩
      · have hStart := hFollows.leaves.isLive hOld hSet hLive
        have hView := hFollows.leaves.view_eq hSet hStart hLive
        exact ⟨congrArg Object.script hView, congrArg Object.finalized hView, hStart⟩
    obtain ⟨hScript, hFinalized, hStart⟩ := hBefore
    obtain ⟨object, hObject⟩ := Option.isSome_iff_exists.mp hStart
    rw [hFollows.leaves.scripted?_eq hScript "__del__", hFinalized]
    have hQuiet := hMute address object hObject
    rwa [← Heap.view_of_object? hObject] at hQuiet
  · obtain ⟨object, hObject⟩ := Option.isSome_iff_exists.mp hLive
    refine .inr ?_
    rw [Heap.scripted?, Heap.script?, Heap.view_of_object? hObject, hFollows.made address object hNew hObject]
    rfl

/-- Scalars always behave the same, and change nothing. -/
theorem governs_scalars (hMute : start.host.Mute) : (scalars start sets).Governs where
  hash world hFollows ref hLive hItems context _ := by
    have hReads := readsAs hSets hFollows hLive hItems
    obtain ⟨level, hOps⟩ := Host.exists_ops
    have hAnswers : ((Ops.ofDepth (level + 1)).hash ref).Answers context world.host (world.host.hashAs 1 ref) :=
      Host.answers_hash hReads.isScalar.isItem (Nat.succ_le_succ (Nat.zero_le level))
    rw [hReads.isScalar.form.2, hReads.hash, ← hOps] at hAnswers
    exact ⟨world, hAnswers world rfl, .refl world⟩
  equal world hFollows element ref hElement hLive hElementItem hItems context hNesting := by
    have hLeft := readsAs hSets hFollows hElement hElementItem
    have hRight := readsAs hSets hFollows hLive hItems
    have hAnswers := Host.answers_equal hLeft.isScalar hRight.isScalar (hNesting.trans_lt (by decide))
    rw [hLeft.scalar, hRight.scalar, hLeft.isNan] at hAnswers
    exact ⟨world, hAnswers world rfl, .refl world⟩
  frozen origin hItems table hBody := by
    have hScalar : (Body.set table).isScalar = true := by
      cases origin with
      | known ref =>
        have hKnown : start.host.IsScalar ref := hItems
        exact hBody ▸ hKnown.scalar
      | made body => exact hBody ▸ Body.isScalar_of_isValued hItems
    cases hScalar
  report world _ origin _ fault hFails := by
    rcases hFails with hHash | ⟨_, hEqual⟩
    · cases hHash
    · cases hEqual
  ends world hFollows address hAbandoned level context := by
    have hLive : world.host.isLive (.object address) = true := by
      simp only [Host.isAbandoned, Bool.and_eq_true] at hAbandoned
      exact hAbandoned.1
    rw [Host.eval_finalize_quiet (isQuiet hSets hMute hFollows hLive)]
    exact ⟨rfl, .refl _⟩

open Classical in
/-- A new float that is no number is equal to nothing. -/
theorem odd_nan (hNan : body.isNan = true) (hScalar : body.isScalar = true) : (scalars start sets).Odd (.made body) := by
  intro world hFollows key hLive hOrigin context hNesting
  have hKey : world.host.body key = body ∧ world.host.IsScalar key := by
    cases key with
    | atom atom => cases hOrigin
    | object address =>
      rcases Nat.lt_or_ge address start.host.cells.size with hOld | hNew
      · rw [(scalars start sets).origin_of_old hOld] at hOrigin
        cases hOrigin
      · rw [(scalars start sets).origin_of_new hNew] at hOrigin
        have hBody := Origin.made.inj hOrigin
        exact ⟨hBody, isScalar_made hFollows hNew hLive (hBody ▸ hScalar)⟩
  obtain ⟨hBody, hThere⟩ := hKey
  refine ⟨⟨world.host.hashAs 1 key, ?_⟩, fun element hElement hItems => ?_⟩
  · obtain ⟨level, hOps⟩ := Host.exists_ops
    have hAnswers : ((Ops.ofDepth (level + 1)).hash key).Answers context world.host (world.host.hashAs 1 key) :=
      Host.answers_hash hThere.isItem (Nat.succ_le_succ (Nat.zero_le level))
    rw [← hOps] at hAnswers
    exact ⟨world, hAnswers world rfl, .refl world⟩
  · have hReads := readsAs hSets hFollows hElement hItems
    have hAnswers := Host.answers_equal hReads.isScalar hThere (hNesting.trans_lt (by decide))
    have hOther : (world.host.body element).scalar element ≠ (world.host.body key).scalar key := by
      rw [hBody, Body.scalar_of_isNan hNan]
      intro hSame
      rw [Body.eq_of_scalar hSame, hOrigin] at hItems
      exact Body.not_isValued_of_isNan hNan hItems
    rw [decide_eq_false hOther, Bool.false_and] at hAnswers
    exact ⟨world, hAnswers world rfl, .refl world⟩

omit hSets in
/-- What is made of a built-in type is concerned, if it is one of a kind or told apart by its content. -/
theorem items_originOf (hScalar : body.isScalar = true) (hNew : Heap.atom? body = none → body.isValued = true) :
    (scalars start sets).conduct.items (originOf body) := by
  unfold originOf
  cases hAtom : Heap.atom? body with
  | none => exact hNew hAtom
  | some atom =>
    have hView := Heap.view_make start.host body
    rw [Heap.make, hAtom] at hView
    exact ⟨⟨rfl, congrArg Object.script hView, congrArg Object.attributes hView⟩,
      (congrArg (fun object => object.body.isScalar) hView).trans hScalar⟩

/-- A scalar that crosses is concerned, unless it is odd. -/
theorem presents_or_isOdd (hOpens : (scalars start sets).Opens) (hFollows : (scalars start sets).Follows world)
    (hBody : value.body? = some body) :
    (scalars start sets).Presents world value ∨ (scalars start sets).IsOdd value := by
  have hMakes := hFollows.makes_crossed hOpens hBody
  have hOwned : value.IsOwned world := by
    constructor <;> rintro _ rfl <;> cases hBody
  have hScalar : body.isScalar = true := by
    cases value <;> cases hBody <;> rfl
  by_cases hNan : body.isNan = true
  · refine .inr ⟨body, hBody, ?_, odd_nan hSets hNan hScalar⟩
    cases value <;> cases hBody <;> first | rfl | cases hNan
  · refine .inl ⟨hOwned, hMakes.concerns (items_originOf hScalar fun hAtom => ?_)⟩
    cases value <;> cases hBody <;> first | exact Body.isValued_of_number hNan rfl | rfl | cases hAtom

/-- The use of sets of scalars can begin. -/
theorem opens_scalars (hRefusals : true ∉ start.refusals)
    (hWhole : ∀ ref, start.isReferenced ref = true → start.host.isLive ref = true)
    (hLeaves : ∀ set ∈ sets, start.host.LeavesToSets set ∧ start.host.scripted? set "__iter__" = none)
    (hElements : ∀ set ∈ sets, ∀ table, start.host.body set = .set table →
      ∀ ref ∈ table.toList, start.host.IsScalar ref) : (scalars start sets).Opens :=
  opens_of (fun set hSet => by
    obtain ⟨table, hBody⟩ := hSets set hSet
    exact ⟨table, hBody, hElements set hSet table hBody⟩) hLeaves hWhole hRefusals

end Scalars

end Scene

/-- Whether an object is a set of scalars, and of no other class, in a world in which what is referred to is there
and no object asks to be told of its end. -/
structure World.CollectsScalars (world : World) (set : Ref) : Prop where
  builtin : world.host.IsBuiltin set
  kind : (world.host.body set).kind = .set
  collects : (world.host.body set).elements?.isSome = true
  elements : ∀ ref ∈ (world.host.body set).references, world.host.IsScalar ref
  mute : world.host.Mute
  whole : ∀ ref ∈ world.references, world.host.isLive ref = true
  unrefused : true ∉ world.refusals

namespace World.CollectsScalars

instance (world : World) (set : Ref) : Decidable (world.CollectsScalars set) :=
  decidable_of_iff (world.host.IsBuiltin set ∧ (world.host.body set).kind = .set ∧
      (world.host.body set).elements?.isSome = true ∧
      (∀ ref ∈ (world.host.body set).references, world.host.IsScalar ref) ∧ world.host.Mute ∧
      (∀ ref ∈ world.references, world.host.isLive ref = true) ∧ true ∉ world.refusals)
    ⟨fun ⟨hBuiltin, hKind, hCollects, hElements, hMute, hWhole, hUnrefused⟩ =>
        ⟨hBuiltin, hKind, hCollects, hElements, hMute, hWhole, hUnrefused⟩,
      fun ⟨hBuiltin, hKind, hCollects, hElements, hMute, hWhole, hUnrefused⟩ =>
        ⟨hBuiltin, hKind, hCollects, hElements, hMute, hWhole, hUnrefused⟩⟩

variable (hCollects : start.CollectsScalars set)

include hCollects

/-- The scene starts with a set. -/
theorem exists_table : ∃ table, start.host.body set = .set table := by
  have hKind := hCollects.kind
  have hElements := hCollects.collects
  cases hBody : start.host.body set with
  | set table => exact ⟨table, rfl⟩
  | frozenset =>
    rw [hBody] at hKind
    cases hKind
  | _ =>
    rw [hBody] at hElements
    cases hElements

theorem isPlain : start.IsPlain set := ⟨hCollects.builtin.scripted? _, hCollects.builtin.scripted? _⟩

/-- The use of such a set can begin. -/
theorem opens : (Scene.scalars start {set}).Opens := by
  obtain ⟨table, hBody⟩ := hCollects.exists_table
  have hSets : ∀ other ∈ ({set} : Set Ref), ∃ table, start.host.body other = .set table := fun other hOther =>
    Set.mem_singleton_iff.mp hOther ▸ hCollects.exists_table
  refine Scene.opens_scalars hSets hCollects.unrefused (fun ref hReferenced => ?_) (fun other hOther => ?_)
    fun other hOther table hTable ref hRef => ?_
  · rw [World.isReferenced_eq, List.contains_iff_mem] at hReferenced
    exact hCollects.whole ref hReferenced
  · obtain rfl := Set.mem_singleton_iff.mp hOther
    exact ⟨hCollects.builtin.leavesToSets hBody, hCollects.isPlain.iterates⟩
  · obtain rfl := Set.mem_singleton_iff.mp hOther
    exact hCollects.elements ref (by rw [hTable]; exact hRef)

/-- The elements of such a set always behave the same. -/
theorem governs : (Scene.scalars start {set}).Governs :=
  Scene.governs_scalars (fun _ hOther => Set.mem_singleton_iff.mp hOther ▸ hCollects.exists_table) hCollects.mute

theorem contains {table : SetTable} (hBody : start.host.body set = .set table) :
    (Scene.scalars start {set}).Contains start set table := by
  have hOpens := hCollects.opens
  have hThere := Set.mem_singleton set
  refine ⟨hOpens.follows, hOpens.live set hThere, by rw [hBody]; rfl, fun ref hRef => ⟨?_, ?_⟩⟩
  · exact (hOpens.follows.isLive_element (hOpens.live set hThere) hBody hRef).2
  · exact hOpens.elements set hThere table hBody ref hRef

end World.CollectsScalars

end HeapBridge
