import HeapBridge.Proofs.Copies.Uses
import HeapBridge.Proofs.Scenes.Relating
/-!
What uses come to. Where a scene is followed, what is told of the use of a set, and what becomes of its table and of
the iterators over it, hangs on the table, on where the iterators stand, and on what the elements and the item are
known by. So it is the same for sets of which the tables correspond.
-/
namespace HeapBridge

open Host (Body Fault Heap Ref SetTable)

variable {scene : Scene} {world left right : World} {related : Ref → Ref → Prop} {set ref copied : Ref}
  {table copy : SetTable} {cursors : List Cursor} {value : NativeValue}

/-- A native form of an object is seen as the object is. -/
theorem NativeValue.StandsFor.glimpse_eq (hStands : value.StandsFor world ref) :
    value.glimpse world = world.host.glimpse ref := by
  cases hStands with
  | scalar hScalar =>
    rw [Heap.glimpse, hScalar]
    cases value with
    | set address => cases NativeValue.body?_of_scalar? hScalar
    | _ => rfl
  | proxy hSet hBacking =>
    rw [Heap.glimpse, hSet, NativeValue.glimpse, hBacking]
    rfl
  | object hScalar hSet =>
    rw [Heap.glimpse, hScalar]
    cases hBody : world.host.body ref with
    | set elements => exact absurd hBody (hSet elements)
    | _ => rfl

/-- What is told of a use, with the element itself where one is handed out, in some form. -/
inductive Telling where
  | reply (reply : UseReply)
  | element (form : Except BridgeError (Option Glimpse) → UseReply) (result : Except BridgeError (Option Ref))

def Telling.seen (heap : Heap) : Telling → UseReply
  | .reply told => told
  | .element form result => form (result.map fun ref => ref.map heap.glimpse)

/-- As what a native caller is told of the next element. -/
def UseReply.stored : Except BridgeError (Option Glimpse) → UseReply
  | .ok (some seen) => .output 1 (some seen)
  | .ok none => .output 0 none
  | .error _ => .output (-1) none

/-- What a use of a set comes to: what is told of it, and the table and the iterators afterwards. -/
structure Effect where
  told : Telling
  table : SetTable
  cursors : List Cursor

/-- What a step of an iterator comes to, and where it stands afterwards. -/
def Cursor.advance (table : SetTable) : Cursor → Except BridgeError (Option Ref) × Cursor
  | .elements source position size broken =>
    match table.step position size broken with
    | .changed => (.error ForeignSet.sizeChanged, .elements source position size true)
    | .exhausted => (.ok none, .finished)
    | .element next ref => (.ok (some ref), .elements source next size false)
  | cursor => (.ok none, cursor)

/-- Tellings that are the same but for the element, which is a related one. -/
inductive Telling.Corresponds (related : Ref → Ref → Prop) : Telling → Telling → Prop where
  | reply (reply : UseReply) : Corresponds related (.reply reply) (.reply reply)
  | failed {form : Except BridgeError (Option Glimpse) → UseReply} (error : BridgeError) :
    Corresponds related (.element form (.error error)) (.element form (.error error))
  | absent {form : Except BridgeError (Option Glimpse) → UseReply} :
    Corresponds related (.element form (.ok none)) (.element form (.ok none))
  | found {form : Except BridgeError (Option Glimpse) → UseReply} {ref copied : Ref} (hRelated : related ref copied) :
    Corresponds related (.element form (.ok (some ref))) (.element form (.ok (some copied)))

/-- Tellings that correspond still do if more elements are related. -/
theorem Telling.Corresponds.mono {others : Ref → Ref → Prop} {told other : Telling}
    (hTold : told.Corresponds related other) (hRelated : ∀ ref copied, related ref copied → others ref copied) :
    told.Corresponds others other := by
  cases hTold with
  | reply reply => exact .reply reply
  | failed error => exact .failed error
  | absent => exact .absent
  | found hFound => exact .found (hRelated _ _ hFound)

/-- Whether uses come to the same but for the elements, which are related. -/
structure Effect.Corresponds (related : Ref → Ref → Prop) (effect other : Effect) : Prop where
  told : effect.told.Corresponds related other.told
  table : effect.table.Corresponds related other.table
  cursors : other.cursors = effect.cursors

/-- Iterators that stand at the same place step alike. -/
theorem Cursor.advance_corresponds (hTable : table.Corresponds related copy) (cursor : Cursor)
    (form : Except BridgeError (Option Glimpse) → UseReply) :
    Telling.Corresponds related (.element form (cursor.advance table).1) (.element form (cursor.advance copy).1) ∧
      (cursor.advance copy).2 = (cursor.advance table).2 := by
  cases cursor with
  | elements source position size broken =>
    have hStep := hTable.step position size broken
    rw [advance, advance]
    generalize table.step position size broken = first, copy.step position size broken = second at hStep ⊢
    cases hStep with
    | changed => exact ⟨.failed _, rfl⟩
    | exhausted => exact ⟨.absent, rfl⟩
    | element next hRelated => exact ⟨.found hRelated, rfl⟩
  | _ => exact ⟨.absent, rfl⟩

namespace Scene

/-- Which element is told as the member that a value is equal to. -/
def memberOf (scene : Scene) (world : World) (table : SetTable) (item : NativeValue) :
    Except BridgeError (Option Ref) :=
  match scene.lookup world table item with
  | .error fault => scene.reported .contains (.error fault)
  | .ok false => .ok none
  | .ok true => scene.reported .member (scene.firstEqual (item.crossed world).2 (item.crossed world).1 table.toList)

def operated (scene : Scene) (world : World) (table : SetTable) (cursors : List Cursor)
    (operation : SetOperation NativeValue) (tell : Except Fault SetAnswer → UseReply) : Effect :=
  ⟨.reply (tell ((scene.outcomeFor world table operation).map Prod.fst)),
    table.leftBy (scene.outcomeFor world table operation), cursors⟩

/-- What the next step of an iterator comes to, by its rank. -/
def passed (table : SetTable) (cursors : List Cursor) (rank : Nat)
    (form : Except BridgeError (Option Glimpse) → UseReply) : Effect :=
  match cursors[rank]? with
  | none => ⟨.reply .nothing, table, cursors⟩
  | some cursor => ⟨.element form (cursor.advance table).1, table, cursors.set rank (cursor.advance table).2⟩

def effect (scene : Scene) (world : World) (set : Ref) (table : SetTable) (cursors : List Cursor) : SetUse → Effect
  | .native _ operation => scene.operated world table cursors operation fun result =>
    .answer (scene.reported (operationOf operation) result)
  | .exported _ _ operation => scene.operated world table cursors operation.operation fun result =>
    .code (SetAnswer.codeOf result)
  | .host operation => scene.operated world table cursors (operation.map .host) .hosted
  | .member _ item => ⟨.element .element (scene.memberOf world table item), table, cursors⟩
  | .anyElement _ => ⟨.element .element (.ok table.toList.head?), table, cursors⟩
  | .iterate _ => ⟨.reply (.started (.ok ())), table, cursors ++ [.elements set 0 table.size false]⟩
  | .iterateExported _ _ => ⟨.reply (.iterator true), table, cursors ++ [.elements set 0 table.size false]⟩
  | .next rank => passed table cursors rank .element
  | .nextExported _ rank => passed table cursors rank .stored

/-! Uses that correspond. -/

/-- Whether a value is the same for what is done with it in two worlds, in tables with related elements. -/
structure Suits (scene : Scene) (related : Ref → Ref → Prop) (left right : World) (table : SetTable)
    (item : NativeValue) : Prop where
  matched : scene.Matches related (item.crossed left).2 (item.crossed right).2 table (item.crossed left).1
    (item.crossed right).1
  related : related (item.crossed left).1 (item.crossed right).1

section Suits

variable (hTable : table.Corresponds related copy)

include hTable

/-- What is told of an operation corresponds if the sets and the items do. -/
theorem outcomeFor_corresponds {operation : SetOperation NativeValue}
    (hItem : ∀ item, operation.item? = some item → scene.Suits related left right table item) :
    SetTable.ResultsCorrespond related (scene.outcomeFor left table operation)
      (scene.outcomeFor right copy operation) := by
  have hItems {operation : SetOperation NativeValue} {item : NativeValue} (hSome : operation.item? = some item)
      (hSuits : scene.Suits related left right table item) :
      SetTable.ResultsCorrespond related (scene.outcomeFor left table operation)
        (scene.outcomeFor right copy operation) := by
    have hKeys (key : Ref) (hKey : (operation.map fun item => (item.crossed left).1).item? = some key) :
        key = (item.crossed left).1 := by
      cases operation <;> cases hSome <;> cases hKey <;> rfl
    have hBoth : SetTable.ResultsCorrespond related
        (scene.outcome (item.crossed left).2 table (operation.map fun item => (item.crossed left).1))
        (scene.outcome (item.crossed right).2 copy
          ((operation.map fun item => (item.crossed left).1).map fun _ => (item.crossed right).1)) :=
      outcome_corresponds _ _ hTable (fun key hKey => hKeys key hKey ▸ hSuits.matched)
        fun key hKey _ => hKeys key hKey ▸ hSuits.related
    cases operation <;> cases hSome <;> exact hBoth
  cases hSome : operation.item? with
  | some item => exact hItems hSome (hItem item hSome)
  | none =>
    cases operation <;> cases hSome
    · exact .ok SetAnswer.done hTable.cleared
    · exact outcome_corresponds .count id hTable (fun _ hNone => by cases hNone)
        fun _ hNone => by cases hNone

/-- The same for what is left behind. -/
theorem operated_corresponds {operation : SetOperation NativeValue}
    (hItem : ∀ item, operation.item? = some item → scene.Suits related left right table item)
    (tell : Except Fault SetAnswer → UseReply) :
    (scene.operated left table cursors operation tell).Corresponds related
      (scene.operated right copy cursors operation tell) := by
  have hOutcome := outcomeFor_corresponds hTable hItem
  refine ⟨?_, hOutcome.leftBy hTable, rfl⟩
  rw [operated, operated, hOutcome.map_eq]
  exact .reply _

/-- An element that is found on one side has a counterpart on the other. -/
theorem memberOf_corresponds {item : NativeValue} (hItem : scene.Suits related left right table item) :
    Telling.Corresponds related (.element .element (scene.memberOf left table item))
      (.element .element (scene.memberOf right copy item)) := by
  have hLookup : scene.lookup right copy item = scene.lookup left table item := hItem.matched.answered_eq hTable
  rw [memberOf, memberOf, hLookup]
  rcases scene.lookup left table item with fault | _ | _
  · exact .failed _
  · exact .absent
  · have hFound := firstEqual_corresponds hTable.toList hItem.matched.elements hItem.matched.origin
    generalize scene.firstEqual _ _ table.toList = first, scene.firstEqual _ _ copy.toList = second at hFound ⊢
    cases hFound with
    | failed fault => exact .failed _
    | absent => exact .absent
    | found hRelated => exact .found hRelated

/-- So does the element that an iterator hands out. -/
theorem passed_corresponds (cursors : List Cursor) (rank : Nat)
    (form : Except BridgeError (Option Glimpse) → UseReply) :
    (passed table cursors rank form).Corresponds related (passed copy cursors rank form) := by
  rw [passed, passed]
  cases cursors[rank]? with
  | none => exact ⟨.reply _, hTable, rfl⟩
  | some cursor =>
    obtain ⟨hTold, hCursor⟩ := cursor.advance_corresponds hTable form
    exact ⟨hTold, hTable, congrArg (cursors.set rank) hCursor⟩

/-- The use of a set comes to the same where the tables correspond. -/
theorem effect_corresponds (set : Ref) (cursors : List Cursor) (use : SetUse)
    (hItem : ∀ item, use.item? = some item → scene.Suits related left right table item) :
    (scene.effect left set table cursors use).Corresponds related (scene.effect right set copy cursors use) := by
  cases use with
  | native _ operation =>
    exact operated_corresponds hTable hItem fun result => .answer (scene.reported (operationOf operation) result)
  | exported _ _ operation =>
    exact operated_corresponds hTable hItem fun result => .code (SetAnswer.codeOf result)
  | host operation => exact operated_corresponds hTable hItem .hosted
  | member proxy item => exact ⟨memberOf_corresponds hTable (hItem item rfl), hTable, rfl⟩
  | anyElement proxy =>
    refine ⟨?_, hTable, rfl⟩
    have hElements := hTable.toList
    rw [effect, effect]
    generalize table.toList = elements, copy.toList = copies at hElements ⊢
    cases hElements with
    | nil => exact .absent
    | cons hRelated _ => exact .found hRelated
  | iterate proxy | iterateExported thread proxy =>
    refine ⟨.reply _, hTable, ?_⟩
    rw [effect, effect, hTable.size_eq]
  | next rank => exact passed_corresponds hTable cursors rank .element
  | nextExported thread rank => exact passed_corresponds hTable cursors rank .stored

end Suits

end Scene

end HeapBridge
