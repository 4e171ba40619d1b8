import HeapBridge.Proofs.Custody.Adoption
import HeapBridge.Proofs.Ownership.Lasting
/-!
Values across the bridge and back. Native code takes scalars by value and host sets as proxies, and refers
to everything else. The main statement is that a host object comes back as itself, or as an object of a
built-in type with the same value; that a native value comes back with its kind and what it carries; and
that to cross once more changes nothing.
-/
namespace HeapBridge

open Host (Body CodePoints Heap Ref)

/-- Code points of characters make a text and come back from it. -/
theorem Host.CodePoints.ofString_ofNat {codes : CodePoints}
    (hValid : ∀ code ∈ codes, code.isValidChar) :
    ofString (String.ofList (codes.map Char.ofNat)) = codes := by
  rw [ofString, String.toList_ofList, List.map_map]
  refine (List.map_congr_left fun code hCode => ?_).trans codes.map_id
  rw [Function.comp_apply, Char.ofNat, dif_pos (hValid code hCode)]
  rfl

theorem Host.CodePoints.isValidChar_of_mem_ofString {text : String} {code : Nat}
    (hCode : code ∈ ofString text) : code.isValidChar := by
  obtain ⟨char, _, rfl⟩ := List.mem_map.mp hCode
  exact char.valid

/-- A text is well-formed if it is one that native code can hold. -/
theorem wellFormedText?_eq_some_iff {codes : CodePoints} {text : String} :
    wellFormedText? codes = some text ↔ CodePoints.ofString text = codes := by
  unfold wellFormedText?
  split
  next hValid =>
    simp only [List.all_eq_true, decide_eq_true_eq] at hValid
    rw [Option.some.injEq]
    constructor
    · rintro rfl
      exact CodePoints.ofString_ofNat hValid
    · rintro rfl
      rw [CodePoints.ofString, List.map_map]
      refine (congrArg String.ofList ?_).trans String.ofList_toList
      exact (List.map_congr_left fun char _ => Char.ofNat_toNat char).trans (List.map_id _)
  next hInvalid =>
    refine ⟨nofun, ?_⟩
    rintro rfl
    refine (hInvalid ?_).elim
    simpa only [List.all_eq_true, decide_eq_true_eq] using
      fun code => CodePoints.isValidChar_of_mem_ofString

/-- The scalar that native code takes a body for. Truth values are no integers to it. -/
def Host.Body.scalar? : Body → Option NativeValue
  | .nil => some .nil
  | .bool value => some (.bool value)
  | .int value => if isNativeInt value then some (.int value) else none
  | .float bits => some (.float bits)
  | .text codes => (wellFormedText? codes).map .text
  | _ => none

/-- Whether a body loses its object when it crosses: an integer of 64 bits, a float, or a text without
half of a surrogate pair. -/
def Host.Body.CrossesByValue : Body → Prop
  | .int value => -2 ^ 63 ≤ value ∧ value < 2 ^ 63
  | .float _ => True
  | .text codes => ∀ code ∈ codes, code.isValidChar
  | _ => False

/-- The body of the object that is made for a scalar. -/
def NativeValue.body? : NativeValue → Option Body
  | .nil => some .nil
  | .bool value => some (.bool value)
  | .int value => some (.int value)
  | .float bits => some (.float bits)
  | .text value => some (.text (.ofString value))
  | .set _ | .host _ => none

/-- Whether an integer is one that native code can hold. -/
def NativeValue.Fits : NativeValue → Prop
  | .int value => isNativeInt value = true
  | _ => True

/-- A body that has a scalar value is the body of that value. -/
theorem NativeValue.body?_of_scalar? {body : Body} {value : NativeValue}
    (hScalar : body.scalar? = some value) : value.body? = some body := by
  cases body with
  | int number =>
    rw [Body.scalar?] at hScalar
    split at hScalar
    · cases hScalar
      rfl
    · cases hScalar
  | text codes =>
    obtain ⟨text, hText, rfl⟩ := Option.map_eq_some_iff.mp hScalar
    rw [body?, wellFormedText?_eq_some_iff.mp hText]
  | nil | bool | float =>
    cases hScalar
    rfl
  | _ => cases hScalar

/-- The same back, as far as the value fits. -/
theorem Host.Body.scalar?_of_body? {body : Body} {value : NativeValue}
    (hBody : value.body? = some body) (hFits : value.Fits) : body.scalar? = some value := by
  cases value with
  | int number =>
    cases hBody
    exact if_pos hFits
  | text text =>
    cases hBody
    rw [scalar?, wellFormedText?_eq_some_iff.mpr rfl]
    rfl
  | set | host => cases hBody
  | _ =>
    cases hBody
    rfl

/-- What is not of a kind of its own is a scalar just if it crosses by value. -/
theorem Host.Body.crossesByValue_iff {body : Body} :
    body.CrossesByValue ↔ body.scalar?.isSome = true ∧ body.isUnique = false := by
  cases body with
  | int value =>
    simp only [CrossesByValue, scalar?, isNativeInt, isUnique, and_true, Bool.and_eq_true,
      decide_eq_true_eq]
    change _ ↔ (ite (-2 ^ 63 ≤ value ∧ value < 2 ^ 63) _ _ : Option NativeValue).isSome = true
    split <;> simp_all
  | text codes =>
    simp only [CrossesByValue, scalar?, isUnique, and_true, Option.isSome_map, wellFormedText?]
    split <;> simp_all
  | _ => simp [CrossesByValue, scalar?, isUnique]

namespace Host.Heap

variable {heap : Heap}

/-- Whether no object at an address is one of those that exist once. -/
def Interned (heap : Heap) : Prop := heap.All fun object => object.body.isUnique = false

/-- Objects that exist once are there from the start, so none is made. -/
theorem lasting_interned : Lasting fun object => object.body.isUnique = false where
  made _ _ hUnique := hUnique
  kept old new hOld hBecomes := by
    obtain ⟨_, hSame | hOther⟩ := hBecomes
    · rwa [hSame]
    · revert hOther
      cases old.body <;> cases new.body <;> simp [Body.canBecome, Body.isUnique]

/-- What exists once is the object that the host has from the start. -/
theorem Interned.make_eq (hInterned : heap.Interned) {ref : Ref}
    (hUnique : (heap.body ref).isUnique = true) : heap.make (heap.body ref) = (ref, heap) := by
  cases ref with
  | atom value => cases value <;> first | rfl | cases hUnique
  | object address =>
    cases hObject : heap.object? address with
    | none =>
      rw [body, view, hObject] at hUnique
      cases hUnique
    | some object =>
      rw [body, view_of_object? hObject, hInterned address object hObject] at hUnique
      cases hUnique

/-- Atoms are bodies of their own. -/
theorem body_of_atom? {body : Body} {value : Atom} (hAtom : atom? body = some value) :
    value.body = body := by
  cases body with
  | int | text | bytes =>
    rw [atom?] at hAtom
    split at hAtom <;> cases hAtom
    rfl
  | tuple items =>
    cases items <;> cases hAtom
    rfl
  | nil | bool | notImplemented =>
    cases hAtom
    rfl
  | _ => cases hAtom

/-- A new object is of a built-in type, and has the body that was asked for. -/
theorem view_make (heap : Heap) (body : Body) :
    (heap.make body).2.view (heap.make body).1 = { body } := by
  unfold make
  split
  next value hAtom => rw [view_atom, body_of_atom? hAtom]
  next => exact view_of_object? (object?_allocate_self heap { body })

theorem Interned.make (hInterned : heap.Interned) (body : Body) : (heap.make body).2.Interned := by
  unfold Heap.make
  split
  next => exact hInterned
  next hAtom => exact hInterned.allocate (isUnique_of_atom? hAtom)

end Host.Heap

/-- Whether there is storage for the proxy that a host object crosses as, if it does. -/
def World.Grants (world : World) (ref : Ref) : Prop :=
  ∀ table, world.host.body ref = .set table → true ∉ world.refusals

namespace Native.Heap

/-- Whether a heap has one more proxy at an address, and is the same otherwise. -/
def Gains (address : Nat) (ref : Ref) (before after : Heap) : Prop :=
  before.object? address = none ∧ ∀ other, after.object? other =
    if other = address then some { retainCount := 1, payload := .foreignSet ref }
    else before.object? other

variable {before after : Heap} {address : Nat} {ref : Ref}

theorem Gains.backing? (hGains : Gains address ref before after) : after.backing? address = some ref := by
  simp [Heap.backing?, hGains.2]

end Native.Heap

namespace ForeignSet

/-- If there is storage, a proxy is made, and the host heap is left alone. -/
theorem exists_run_create {world : World} (hGranted : true ∉ world.refusals) (ref : Ref) :
    ∃ address after, (create ref).run.run world = (.ok address, after) ∧
      after.host = world.host ∧ true ∉ after.refusals ∧
        Native.Heap.Gains address ref world.native after.native := by
  have hReserve : world.reserve .foreignSet = (some world.native.cells.size,
      { world with native := (world.native.reserve .foreignSet).2,
                   refusals := world.refusals.tail }) := by
    unfold World.reserve
    split
    next hRefused => exact (hGranted (hRefused ▸ List.mem_cons_self)).elim
    next => rfl
  have hCell : (world.native.reserve .foreignSet).2.cell? world.native.cells.size =
      some (.reserved .foreignSet) := by
    rw [Native.Heap.cell?_reserve, if_pos rfl]
  rw [run_create, hReserve]
  refine ⟨_, _, rfl, rfl, fun hRefused => hGranted (List.mem_of_mem_tail hRefused),
    Native.Heap.object?_of_vacant world.native.cell?_size, fun other => ?_⟩
  rw [← Native.Heap.object?_reserve world.native .foreignSet]
  exact Native.Heap.object?_install hCell _ other

end ForeignSet

namespace NativeValue

/-- How native code takes a host object over. -/
inductive Taken (before : World) (ref : Ref) : NativeValue → World → Prop where
  | scalar {value : NativeValue} (hScalar : (before.host.body ref).scalar? = some value) :
      Taken before ref value before
  | proxy {table : Host.SetTable} {address : Nat} {after : World}
      (hSet : before.host.body ref = .set table) (hHost : after.host = before.host)
      (hRefusals : true ∉ after.refusals)
      (hNative : Native.Heap.Gains address ref before.native after.native) :
      Taken before ref (.set address) after
  | object (hScalar : (before.host.body ref).scalar? = none)
      (hSet : ∀ table, before.host.body ref ≠ .set table) :
      Taken before ref (.host ref) (before.hold ref)

/-- Whatever is granted to the caller can be taken inward. -/
theorem exists_taken {world : World} {ref : Ref} (hGrants : world.Grants ref) :
    ∃ value after, (fromHost ref).run.run world = (.ok value, after) ∧
      Taken world ref value after := by
  rw [fromHost, run_get]
  cases hBody : world.host.body ref with
  | nil | bool | float => exact ⟨_, _, rfl, .scalar (by rw [hBody]; rfl)⟩
  | int number =>
    dsimp only
    split
    next hFits => exact ⟨_, _, rfl, .scalar (by rw [hBody, Body.scalar?, if_pos hFits])⟩
    next hLarge =>
      exact ⟨_, _, rfl, .object (by rw [hBody, Body.scalar?, if_neg hLarge]) (by simp [hBody])⟩
  | text codes =>
    dsimp only
    split
    next text hText => exact ⟨_, _, rfl, .scalar (by rw [hBody, Body.scalar?, hText]; rfl)⟩
    next hNone =>
      exact ⟨_, _, rfl, .object (by rw [hBody, Body.scalar?, hNone]; rfl) (by simp [hBody])⟩
  | set table =>
    have hGranted : true ∉ (world.hold ref).refusals := hGrants table hBody
    obtain ⟨address, after, hRun, hHost, hRefusals, hNative⟩ :=
      ForeignSet.exists_run_create hGranted ref
    refine ⟨.set address, after, ?_, .proxy hBody hHost hRefusals hNative⟩
    change (ForeignSet.create ref >>= fun address =>
      (pure (NativeValue.set address) : BridgeM NativeValue)).run.run (world.hold ref) = _
    rw [run_bind, hRun]
    rfl
  | _ => exact ⟨_, _, rfl, .object (by rw [hBody]; rfl) (by simp [hBody])⟩

/-- A scalar crosses as a new object with its value, unless there is one already. -/
theorem run_toHost_of_body? {value : NativeValue} {body : Body} (hBody : value.body? = some body)
    (world : World) : value.toHost.run.run world =
      (.ok (world.host.make body).1, { world with host := (world.host.make body).2 }) := by
  cases value with
  | set | host => cases hBody
  | _ =>
    cases hBody
    rfl

theorem run_toHost_set {address : Nat} {backing : Ref} {world : World}
    (hBacking : world.native.backing? address = some backing) :
    (NativeValue.set address).toHost.run.run world = (.ok backing, world) := by
  rw [toHost, run_get, hBacking]
  rfl

/-- A host object on its way to native code and back. -/
def viaNative (ref : Ref) : BridgeM (NativeValue × Ref) := do
  let value ← fromHost ref
  return (value, ← value.toHost)

def viaHost (value : NativeValue) : BridgeM NativeValue := do fromHost (← value.toHost)

/-- Whether two native values are the same at two times: scalars by kind and value, proxies by the host
object behind them. -/
def Alike (before : Native.Heap) (value : NativeValue) (after : Native.Heap) (other : NativeValue) :
    Prop :=
  match value, other with
  | .set address, .set other => ∃ backing,
      before.backing? address = some backing ∧ after.backing? other = some backing
  | value, other => value = other

theorem alike_self {value : NativeValue} (hSet : ∀ address, value ≠ .set address)
    (before after : Native.Heap) : value.Alike before after value := by
  cases value with
  | set address => exact (hSet address rfl).elim
  | _ => rfl

end NativeValue

open NativeValue (Taken viaHost viaNative)

/-- What native code takes a host object for. -/
structure World.Takes (before : World) (ref : Ref) (value : NativeValue) (after : Native.Heap) :
    Prop where
  /-- A scalar is taken for what it is. -/
  scalar : ∀ scalar, (before.host.body ref).scalar? = some scalar → value = scalar
  /-- A set gets a new proxy, with one reference. -/
  proxy : ∀ table, before.host.body ref = .set table →
    ∃ address, value = .set address ∧ Native.Heap.Gains address ref before.native after
  /-- Anything else is referred to. -/
  object : (before.host.body ref).scalar? = none →
    (∀ table, before.host.body ref ≠ .set table) → value = .host ref

/-- What is taken has the value of what it was taken from. -/
theorem NativeValue.Taken.takes {before after : World} {ref : Ref} {value : NativeValue}
    (hTaken : Taken before ref value after) : before.Takes ref value after.native := by
  cases hTaken with
  | scalar hScalar =>
    refine ⟨fun scalar hOther => Option.some.inj (hScalar.symm.trans hOther), fun table hSet => ?_,
      fun hNone => ?_⟩
    · rw [hSet] at hScalar
      cases hScalar
    · rw [hNone] at hScalar
      cases hScalar
  | proxy hSet hHost hRefusals hNative =>
    refine ⟨fun scalar hScalar => ?_, fun _ _ => ⟨_, rfl, hNative⟩, fun _ hNoSet => (hNoSet _ hSet).elim⟩
    rw [hSet] at hScalar
    cases hScalar
  | object hScalar hSet =>
    refine ⟨fun scalar hOther => ?_, fun table hTable => (hSet table hTable).elim, fun _ _ => rfl⟩
    rw [hScalar] at hOther
    cases hOther

/-- A host object is taken for the same twice. -/
theorem World.Takes.alike {first second : World} {ref result : Ref} {value other : NativeValue}
    {before after : Native.Heap} (hFirst : first.Takes ref value before)
    (hSecond : second.Takes result other after)
    (hBody : second.host.body result = first.host.body ref)
    (hSame : (first.host.body ref).scalar? = none → result = ref) :
    value.Alike before after other := by
  cases hScalar : (first.host.body ref).scalar? with
  | some scalar =>
    obtain rfl := hFirst.scalar scalar hScalar
    obtain rfl := hSecond.scalar value (hBody ▸ hScalar)
    refine NativeValue.alike_self (fun address hSet => ?_) _ _
    subst hSet
    cases NativeValue.body?_of_scalar? hScalar
  | none =>
    obtain rfl := hSame hScalar
    by_cases hSet : ∃ table, first.host.body result = .set table
    · obtain ⟨table, hTable⟩ := hSet
      obtain ⟨address, rfl, hGains⟩ := hFirst.proxy table hTable
      obtain ⟨other, rfl, hAgain⟩ := hSecond.proxy table (hBody.trans hTable)
      exact ⟨result, hGains.backing?, hAgain.backing?⟩
    · simp only [not_exists] at hSet
      rw [hFirst.object hScalar hSet, hSecond.object (hBody ▸ hScalar) (hBody ▸ hSet)]
      rfl

/-- What comes of a host object that crosses to native code and back. -/
structure World.Retracts (before : World) (ref : Ref) (value : NativeValue) (result : Ref)
    (after : World) : Prop where
  takes : before.Takes ref value after.native
  /-- What crosses by value comes back as an object of a built-in type with the same value. -/
  made : (before.host.body ref).CrossesByValue →
    after.host.view result = { body := before.host.body ref }
  /-- Anything else comes back as itself. -/
  same : ¬ (before.host.body ref).CrossesByValue → result = ref ∧ after.host = before.host

namespace World.Retracts

variable {before after last : World} {ref result final : Ref} {value again : NativeValue}

theorem body_eq (hRetracts : before.Retracts ref value result after) :
    after.host.body result = before.host.body ref := by
  by_cases hCrosses : (before.host.body ref).CrossesByValue
  · rw [Heap.body, hRetracts.made hCrosses]
  · obtain ⟨rfl, hHost⟩ := hRetracts.same hCrosses
    rw [hHost]

/-- To cross once more changes nothing on the host side. -/
theorem view_eq (hFirst : before.Retracts ref value result after)
    (hSecond : after.Retracts result again final last) :
    last.host.view final = after.host.view result := by
  by_cases hCrosses : (before.host.body ref).CrossesByValue
  · have hBody := hFirst.body_eq
    rw [hSecond.made (hBody ▸ hCrosses), hFirst.made hCrosses, hBody]
  · obtain ⟨rfl, hHost⟩ := hSecond.same (hFirst.body_eq ▸ hCrosses)
    rw [hHost]

theorem same_of_scalar? (hRetracts : before.Retracts ref value result after)
    (hNone : (before.host.body ref).scalar? = none) : result = ref := by
  refine (hRetracts.same ?_).1
  rw [Body.crossesByValue_iff, hNone]
  exact fun hCrosses => nomatch hCrosses.1

end World.Retracts

/-- What was taken over is given back, and can be taken over again. -/
theorem NativeValue.Taken.exists_retracts {world middle : World} {ref : Ref} {value : NativeValue}
    (hTaken : Taken world ref value middle) (hInterned : world.host.Interned)
    (hGrants : world.Grants ref) :
    ∃ result after, value.toHost.run.run middle = (.ok result, after) ∧
      world.Retracts ref value result after ∧ after.host.Interned ∧ after.Grants result := by
  have hTakes := hTaken.takes
  cases hTaken with
  | scalar hScalar =>
    have hView := Heap.view_make world.host (world.host.body ref)
    refine ⟨_, _, run_toHost_of_body? (body?_of_scalar? hScalar) world,
      ⟨hTakes, fun _ => hView, fun hStays => ?_⟩, hInterned.make _, fun table hSet => ?_⟩
    · have hUnique : (world.host.body ref).isUnique = true := by
        simpa [Body.crossesByValue_iff, hScalar] using hStays
      rw [hInterned.make_eq hUnique]
      exact ⟨rfl, rfl⟩
    · rw [Heap.body, hView] at hSet
      exact hGrants table hSet
  | proxy hSet hHost hRefusals hNative =>
    refine ⟨_, _, run_toHost_set hNative.backing?, ⟨hTakes, fun hCrosses => ?_,
      fun _ => ⟨rfl, hHost⟩⟩, hHost ▸ hInterned, fun _ _ => hRefusals⟩
    rw [hSet] at hCrosses
    exact hCrosses.elim
  | object hScalar hSet =>
    refine ⟨ref, world.hold ref, rfl, ⟨hTakes, fun hCrosses => ?_, fun _ => ⟨rfl, rfl⟩⟩, hInterned,
      hGrants⟩
    rw [Body.crossesByValue_iff, hScalar] at hCrosses
    cases hCrosses.1

/-- A host object comes back, and can cross again. -/
theorem World.exists_retracts {world : World} {ref : Ref} (hInterned : world.host.Interned)
    (hGrants : world.Grants ref) :
    ∃ value result after, (viaNative ref).run.run world = (.ok (value, result), after) ∧
      world.Retracts ref value result after ∧ after.host.Interned ∧ after.Grants result := by
  obtain ⟨value, middle, hRun, hTaken⟩ := NativeValue.exists_taken hGrants
  obtain ⟨result, after, hBack, hRetracts⟩ := hTaken.exists_retracts hInterned hGrants
  refine ⟨value, result, after, ?_, hRetracts⟩
  rw [viaNative, run_bind, hRun]
  dsimp only
  rw [run_bind, hBack]
  rfl

/-- Whether a native value can cross: an integer fits, and a proxy is there. -/
structure World.Holds (world : World) (value : NativeValue) : Prop where
  fits : value.Fits
  proxy : ∀ address, value = .set address →
    ∃ backing, world.native.backing? address = some backing ∧ world.Grants backing
  object : ∀ ref, value = .host ref → world.Grants ref

/-- What comes of a native value that crosses to the host and back. -/
structure World.Restores (before : World) (value other : NativeValue) (after : World) : Prop where
  /-- Nil, truth values, integers, floats and texts come back as they are. -/
  scalar : value.body?.isSome = true → other = value
  /-- A proxy of a set comes back as a further proxy of the set, and is left alone. -/
  proxy : ∀ address backing table, value = .set address →
    before.native.backing? address = some backing → before.host.body backing = .set table →
      ∃ further, other = .set further ∧ further ≠ address ∧
        Native.Heap.Gains further backing before.native after.native ∧
          after.native.object? address = before.native.object? address

/-- A native value is handed to the host as an object that stands for it. -/
theorem World.Holds.exists_run_toHost {world : World} {value : NativeValue}
    (hHolds : world.Holds value) (hInterned : world.host.Interned) :
    ∃ ref after, value.toHost.run.run world = (.ok ref, after) ∧ after.native = world.native ∧
      after.host.Interned ∧ after.Grants ref ∧
        (value.body?.isSome = true → (after.host.body ref).scalar? = some value) ∧
        (∀ address, value = .set address →
          world.native.backing? address = some ref ∧ after.host = world.host) := by
  cases hBody : value.body? with
  | some body =>
    have hView := Heap.view_make world.host body
    have hScalar := Body.scalar?_of_body? hBody hHolds.fits
    refine ⟨_, _, NativeValue.run_toHost_of_body? hBody world, rfl, hInterned.make body,
      fun table hSet => ?_, fun _ => ?_, ?_⟩
    · rw [Heap.body, hView] at hSet
      subst hSet
      cases hScalar
    · rw [Heap.body, hView]
      exact hScalar
    · rintro address rfl
      cases hBody
  | none =>
    cases value with
    | set address =>
      obtain ⟨backing, hBacking, hGrants⟩ := hHolds.proxy address rfl
      refine ⟨backing, world, NativeValue.run_toHost_set hBacking, rfl, hInterned, hGrants,
        fun hSome => (nomatch hSome), fun other hOther => ?_⟩
      obtain rfl := NativeValue.set.inj hOther
      exact ⟨hBacking, rfl⟩
    | host ref =>
      exact ⟨ref, world, rfl, rfl, hInterned, hHolds.object ref rfl, fun hSome => (nomatch hSome),
        fun address hOther => NativeValue.noConfusion hOther⟩
    | _ => cases hBody

/-- A native value comes back, and to cross once more changes nothing. -/
theorem World.exists_restores {world : World} {value : NativeValue} (hInterned : world.host.Interned)
    (hHolds : world.Holds value) :
    ∃ other after, (viaHost value).run.run world = (.ok other, after) ∧
      world.Restores value other after ∧
      ∃ again last, (viaHost other).run.run after = (.ok again, last) ∧
        other.Alike after.native last.native again := by
  obtain ⟨ref, middle, hOut, hNative, hMiddle, hGrants, hScalar, hProxy⟩ :=
    hHolds.exists_run_toHost hInterned
  obtain ⟨other, after, hIn, hTaken⟩ := NativeValue.exists_taken hGrants
  obtain ⟨result, outside, hOutAgain, hRetracts, _, hGrantsAgain⟩ :=
    hTaken.exists_retracts hMiddle hGrants
  obtain ⟨again, last, hInAgain, hTakenAgain⟩ := NativeValue.exists_taken hGrantsAgain
  refine ⟨other, after, ?_, ⟨fun hSome => hTaken.takes.scalar value (hScalar hSome), ?_⟩, again, last,
    ?_, ?_⟩
  · rw [viaHost, run_bind, hOut]
    exact hIn
  · rintro address backing table rfl hBacking hSet
    obtain ⟨hSame, hHost⟩ := hProxy address rfl
    obtain rfl := Option.some.inj (hSame.symm.trans hBacking)
    obtain ⟨further, hFurther, hGains⟩ := hTaken.takes.proxy table (hHost ▸ hSet)
    rw [hNative] at hGains
    have hOther : further ≠ address := by
      rintro rfl
      rw [Native.Heap.backing?, hGains.1] at hBacking
      cases hBacking
    exact ⟨further, hFurther, hOther, hGains, (hGains.2 address).trans (if_neg hOther.symm)⟩
  · rw [viaHost, run_bind, hOutAgain]
    exact hInAgain
  · exact hTaken.takes.alike hTakenAgain.takes hRetracts.body_eq hRetracts.same_of_scalar?

/-- How values cross the bridge. -/
structure World.Retraction (world : World) : Prop where
  /-- A host object comes back, and comes back the same if it crosses once more. -/
  host : ∀ ref, world.Grants ref → ∃ value result after,
    (viaNative ref).run.run world = (.ok (value, result), after) ∧
      world.Retracts ref value result after ∧
      ∃ again final last, (viaNative result).run.run after = (.ok (again, final), last) ∧
        value.Alike after.native last.native again ∧
          last.host.view final = after.host.view result ∧
            (¬ (world.host.body ref).CrossesByValue → final = ref)
  /-- So does a native value. -/
  native : ∀ value, world.Holds value → ∃ other after,
    (viaHost value).run.run world = (.ok other, after) ∧ world.Restores value other after ∧
      ∃ again last, (viaHost other).run.run after = (.ok again, last) ∧
        other.Alike after.native last.native again

/-- Both conversions are inverse to one another as long as small values are interned. -/
theorem World.retraction {world : World} (hInterned : world.host.Interned) : world.Retraction where
  host ref hGrants := by
    obtain ⟨value, result, after, hRun, hFirst, hAfter, hGrantsAgain⟩ :=
      exists_retracts hInterned hGrants
    obtain ⟨again, final, last, hRunAgain, hSecond, _⟩ := exists_retracts hAfter hGrantsAgain
    refine ⟨value, result, after, hRun, hFirst, again, final, last, hRunAgain,
      hFirst.takes.alike hSecond.takes hFirst.body_eq hFirst.same_of_scalar?,
      hFirst.view_eq hSecond, fun hStays => ?_⟩
    exact (hSecond.same (hFirst.body_eq ▸ hStays)).1.trans (hFirst.same hStays).1
  native _ hHolds := exists_restores hInterned hHolds

namespace Session

theorem interned_performAll (commands : List Command) :
    (performAll commands {}).2.world.host.Interned :=
  all_performAll Heap.lasting_interned (fun _ => rfl) commands Heap.all_empty

/-- After any commands, values of either side cross the bridge and come back as they were, or as what
they carry. -/
theorem conversions_retract (commands : List Command) :
    (performAll commands {}).2.world.Retraction :=
  World.retraction (interned_performAll commands)

/-- A truth value is no integer. -/
example : ((viaNative (.bool true)).run.run {}).1 = .ok (.bool true, .bool true) := rfl

end Session

end HeapBridge
