import HeapBridge.Proofs.Copies.Effects
import HeapBridge.Proofs.Members.Agreement
import HeapBridge.Proofs.Members.Iterators
/-!
Sets that are used in turn. While each of the sets has a proxy that is owned from the start, they stay there, their
elements stay what they are known by, and the iterators over one set go over no other. So one use of a set comes to
what the scene says, and has no bearing on the other sets.
-/
namespace HeapBridge

open Host (Body Context Fault Heap HostM Object Ref SetTable)

variable {scene : Scene} {world before after : World} {set other ref : Ref} {table left : SetTable}
  {value : NativeValue} {owned : Multiset Holding} {state : Usage} {started : List (Ref × Nat)} {number rank : Nat}
  {cursor : Cursor}

/-- Where the iterators over a set stand, in the order in which they were started. -/
def Usage.cursors (set : Ref) (state : Usage) : List Cursor :=
  (state.numbers set).map fun number => state.world.cursor number

/-- Whether an iterator goes over a set, or over nothing any more. -/
def Cursor.IsOver (set : Ref) : Cursor → Prop
  | .finished => True
  | .elements source _ _ _ => source = set
  | .object _ => False

theorem Cursor.IsOver.references (hOver : cursor.IsOver set) : cursor.references ⊆ [set] := by
  cases cursor with
  | finished => exact List.nil_subset _
  | elements source position size broken => exact hOver ▸ List.Subset.refl _
  | object iterator => exact hOver.elim

/-- An iterator over a set stays on it until it is at its end. -/
theorem Cursor.IsOver.advance (hOver : cursor.IsOver set) (table : SetTable) : (cursor.advance table).2.IsOver set := by
  cases cursor with
  | elements source position size broken =>
    rw [Cursor.advance]
    cases table.step position size broken with
    | exhausted => exact trivial
    | _ => exact hOver
  | _ => exact hOver

/-- Whether an object that is known by this is told apart by it: it was there from the start, or is seen as a
scalar. -/
def Origin.IsTold : Origin → Prop
  | .known _ => True
  | .made body => body.scalar?.isSome = true

namespace Scene

/-- As what a value is known that has crossed. -/
def originFor (scene : Scene) (value : NativeValue) : Origin :=
  value.body?.elim (.known (value.crossed scene.start).1) originOf

/-- Whether the objects that a caller owns from the start include a proxy of each set. -/
def Provides (scene : Scene) (owned : Multiset Holding) : Prop :=
  ∀ set ∈ scene.sets, ∃ proxy, .reference proxy ∈ owned ∧ scene.start.native.backing? proxy = some set

end Scene

/-- Whether a value is one wherever sets are used: it is a scalar, or what it refers to is owned from the start. -/
structure NativeValue.Lasts (scene : Scene) (owned : Multiset Holding) (value : NativeValue) : Prop where
  fits : value.Fits
  host : ∀ ref, value = .host ref → ref ∈ scene.start.held
  proxy : ∀ address, value = .set address →
    .reference address ∈ owned ∧ ∃ ref, scene.start.native.backing? address = some ref
  items : scene.conduct.items (scene.originFor value)

namespace Scene

/-- Whether sets are used in turn. -/
structure Serves (scene : Scene) (owned : Multiset Holding) (state : Usage) : Prop where
  follows : scene.Follows state.world
  balanced : ∃ extra, Account.Balanced ⟨extra + owned, state.world⟩
  /-- What the caller owns from the start it owns still. -/
  backing : ∀ proxy set, .reference proxy ∈ owned → scene.start.native.backing? proxy = some set →
    state.world.native.backing? proxy = some set
  held : scene.start.held ⊆ state.world.held
  elements : ∀ set ∈ scene.sets, ∀ table, state.world.host.body set = .set table → ∀ ref ∈ table.toList,
    scene.conduct.items (scene.origin state.world ref) ∧ (scene.origin state.world ref).IsTold
  started : ∀ entry ∈ state.started, entry.1 ∈ scene.sets ∧ entry.2 < state.world.cursors.size ∧
    (state.world.cursor entry.2).IsOver entry.1
  apart : (state.started.map Prod.snd).Nodup

/-- Whether nothing has become of a set, of its elements and of the iterators over it. -/
structure Spares (scene : Scene) (set : Ref) (before after : Usage) : Prop where
  body : after.world.host.body set = before.world.host.body set
  cursors : after.cursors set = before.cursors set
  origins : ∀ table, before.world.host.body set = .set table → ∀ ref ∈ table.toList,
    scene.origin after.world ref = scene.origin before.world ref

/-- What is behind a proxy is there. -/
theorem Follows.isLive_of_backing (hFollows : scene.Follows world) {proxy : Nat}
    (hBacking : world.native.backing? proxy = some ref) : world.host.isLive ref = true := by
  obtain ⟨object, hObject, hRef⟩ := Native.Heap.mem_of_backing? hBacking
  exact hFollows.whole ref (World.isReferenced_iff.mpr (.inr (.proxy hObject hRef)))

namespace Serves

section Sets

variable (hServes : scene.Serves owned state)

include hServes

theorem live (hProvides : scene.Provides owned) (hSet : set ∈ scene.sets) : state.world.host.isLive set = true := by
  obtain ⟨proxy, hOwned, hBacking⟩ := hProvides set hSet
  exact hServes.follows.isLive_of_backing (hServes.backing proxy set hOwned hBacking)

theorem contains (hBody : state.world.host.body set = .set table) (hSet : set ∈ scene.sets) :
    scene.Contains state.world set table where
  follows := hServes.follows
  live := Heap.isLive_of_body hBody
  elements := by rw [hBody]; rfl
  concerns ref hRef :=
    ⟨(hServes.follows.isLive_element (Heap.isLive_of_body hBody) hBody hRef).2,
      (hServes.elements set hSet table hBody ref hRef).1⟩

theorem exists_uses (hProvides : scene.Provides owned) (hBody : state.world.host.body set = .set table)
    (hSet : set ∈ scene.sets) : ∃ holdings proxy, scene.Uses holdings proxy set table state.world := by
  obtain ⟨proxy, hOwned, hBacking⟩ := hProvides set hSet
  obtain ⟨extra, hBalanced⟩ := hServes.balanced
  exact ⟨_, proxy, hServes.contains hBody hSet, hBody, hBalanced, hServes.backing proxy set hOwned hBacking⟩

/-- What the sets are used with is what it was from the start. -/
theorem isOwned (hLasts : value.Lasts scene owned) : value.IsOwned state.world where
  host ref hValue := World.isReferenced_iff.mpr (.inl (hServes.held (hLasts.host ref hValue)))
  proxy address hValue := by
    obtain ⟨hOwned, ref, hBacking⟩ := hLasts.proxy address hValue
    exact ⟨ref, hServes.backing address ref hOwned hBacking⟩

/-- An item that crosses comes from where the item itself comes from. -/
theorem origin_crossed (hOpens : scene.Opens) (hLasts : value.Lasts scene owned) :
    scene.origin (value.crossed state.world).2 (value.crossed state.world).1 = scene.originFor value := by
  cases hBody : value.body? with
  | some body =>
    rw [originFor, hBody]
    exact (hServes.follows.makes_crossed hOpens hBody).origin
  | none =>
    rw [originFor, hBody, value.crossed_of_not_body? hBody]
    cases value with
    | host ref => exact origin_of_live (hOpens.follows.isLive_of_held (hLasts.host ref rfl)) _
    | set address =>
      obtain ⟨hOwned, ref, hBacking⟩ := hLasts.proxy address rfl
      have hNow := hServes.backing address ref hOwned hBacking
      change scene.origin state.world ((state.world.native.backing? address).getD .nil) =
        .known ((scene.start.native.backing? address).getD .nil)
      rw [hNow, hBacking]
      exact origin_of_live (hOpens.follows.isLive_of_backing hBacking) _
    | _ => cases hBody

/-- An item that lasts is one that a set can be asked for. -/
theorem presents (hOpens : scene.Opens) (hLasts : value.Lasts scene owned) : scene.Presents state.world value := by
  have hOwned := hServes.isOwned hLasts
  have hItems : scene.conduct.items (scene.origin (value.crossed state.world).2 (value.crossed state.world).1) := by
    rw [hServes.origin_crossed hOpens hLasts]
    exact hLasts.items
  refine ⟨hOwned, ?_, hItems⟩
  cases hBody : value.body? with
  | some body => exact (hServes.follows.makes_crossed hOpens hBody).live
  | none =>
    have hReferenced := hOwned.isReferenced hBody
    rw [value.crossed_of_not_body? hBody]
    exact hServes.follows.whole _ hReferenced

end Sets

end Serves

end Scene

/-- Values that last are told apart by what they are known by. -/
theorem NativeValue.Lasts.isTold (hLasts : value.Lasts scene owned) : (scene.originFor value).IsTold := by
  cases hBody : value.body? with
  | none =>
    rw [Scene.originFor, hBody]
    exact trivial
  | some body =>
    rw [Scene.originFor, hBody]
    change (Scene.originOf body).IsTold
    unfold Scene.originOf
    cases Heap.atom? body with
    | some atom => exact trivial
    | none => exact Option.isSome_iff_exists.mpr ⟨value, Body.scalar?_of_body? hBody hLasts.fits⟩

namespace Scene

/-- The world in which a set is asked, where the item has crossed if there is one. -/
def askedIn (world : World) (item? : Option NativeValue) : World :=
  item?.elim world fun item => (item.crossed world).2

/-- Whether a use of a set has come to an effect, and left all other sets alone. -/
structure Performs (scene : Scene) (owned : Multiset Holding) (set : Ref) (asked : World) (effect : Effect)
    (state : Usage) (outcome : UseReply × Usage) : Prop where
  told : outcome.1 = effect.told.seen asked.host
  serves : scene.Serves owned outcome.2
  body : outcome.2.world.host.body set = .set effect.table
  cursors : outcome.2.cursors set = effect.cursors
  origins : ∀ ref ∈ effect.table.toList, scene.origin outcome.2.world ref = scene.origin asked ref
  spares : ∀ other ∈ scene.sets, other ≠ set → scene.Spares other state outcome.2

namespace Serves

variable (hServes : scene.Serves owned state)

include hServes

/-- The sets are there as long as what the caller owns is owned. -/
theorem live_of_saves (hProvides : scene.Provides owned) (hSaves : state.world.Saves after)
    (hFollows : scene.Follows after) (hSet : set ∈ scene.sets) : after.host.isLive set = true := by
  obtain ⟨extra, hBalanced⟩ := hServes.balanced
  obtain ⟨more, hMoves⟩ := hSaves.moves (extra + owned)
  obtain ⟨proxy, hOwned, hBacking⟩ := hProvides set hSet
  have hThere : .reference proxy ∈ more + (extra + owned) :=
    Multiset.mem_add.mpr (.inr (Multiset.mem_add.mpr (.inr hOwned)))
  have hNow : after.native.backing? proxy = some set :=
    hMoves.backing? hBalanced hThere (hServes.backing proxy set hOwned hBacking)
  exact hFollows.isLive_of_backing hNow

/-- What the caller owns is owned as long as nothing of it is given up. -/
theorem next (hSaves : state.world.Saves after) (hFollows : scene.Follows after)
    (hElements : ∀ set ∈ scene.sets, ∀ table, after.host.body set = .set table → ∀ ref ∈ table.toList,
      scene.conduct.items (scene.origin after ref) ∧ (scene.origin after ref).IsTold)
    (hStarted : ∀ entry ∈ started, entry.1 ∈ scene.sets ∧ entry.2 < after.cursors.size ∧
      (after.cursor entry.2).IsOver entry.1)
    (hApart : (started.map Prod.snd).Nodup) : scene.Serves owned ⟨after, started⟩ := by
  obtain ⟨extra, hBalanced⟩ := hServes.balanced
  obtain ⟨more, hMoves⟩ := hSaves.moves (extra + owned)
  have hOwned {proxy : Nat} (hThere : .reference proxy ∈ owned) : .reference proxy ∈ more + (extra + owned) :=
    Multiset.mem_add.mpr (.inr (Multiset.mem_add.mpr (.inr hThere)))
  refine ⟨hFollows, ⟨more + extra, ?_⟩, fun proxy set hThere hBacking => ?_, fun ref hRef => ?_, hElements, hStarted,
    hApart⟩
  · rw [add_assoc]
    exact hMoves.balanced hBalanced
  · exact hMoves.backing? hBalanced (hOwned hThere) (hServes.backing proxy set hThere hBacking)
  · have hBefore : ref ∈ (state.world.held : Multiset Ref) := hServes.held hRef
    exact Multiset.mem_of_le hSaves.held hBefore

variable (hOpens : scene.Opens) (hProvides : scene.Provides owned)

include hOpens hProvides

/-- A set goes on with another table, if its elements are concerned, and nothing becomes of the iterators. -/
theorem retables (hSet : set ∈ scene.sets) (hSaves : state.world.Saves after)
    (hRetables : scene.Retables set left state.world after)
    (hLeft : ∀ ref ∈ left.toList, after.host.isLive ref = true →
      scene.conduct.items (scene.origin after ref) ∧ (scene.origin after ref).IsTold) :
    scene.Serves owned ⟨after, state.started⟩ ∧ after.host.body set = .set left ∧
      ∀ other ∈ scene.sets, other ≠ set → scene.Spares other state ⟨after, state.started⟩ := by
  have hKeeps := hRetables.keeps
  have hLives (other : Ref) (hOther : other ∈ scene.sets) : after.host.isLive other = true :=
    hServes.live_of_saves hProvides hSaves hKeeps.follows hOther
  have hCursor (number : Nat) : after.cursor number = state.world.cursor number :=
    World.cursor_congr hKeeps.cursors number
  have hOther {other : Ref} (hThere : other ∈ scene.sets) (hNe : other ≠ set) :
      after.host.body other = state.world.host.body other :=
    congrArg Object.body (hKeeps.leaves.view_eq hNe (hServes.live hProvides hThere) (hLives other hThere))
  have hOrigin {other ref : Ref} {table : SetTable} (hThere : other ∈ scene.sets) (hNe : other ≠ set)
      (hBody : state.world.host.body other = .set table) (hRef : ref ∈ table.toList) :
      scene.origin after ref = scene.origin state.world ref := by
    have hBefore := (hServes.contains hBody hThere).concerns ref hRef
    have hAfter := (hKeeps.follows.isLive_element (hLives other hThere) ((hOther hThere hNe).trans hBody) hRef).2
    exact hKeeps.origin_eq hOpens hSet hBefore.live hAfter
  have hBody := hRetables.body (hLives set hSet)
  refine ⟨hServes.next hSaves hKeeps.follows (fun other hThere table hTable ref hRef => ?_) (fun entry hEntry => ?_)
    hServes.apart, hBody, fun other hThere hNe => ⟨hOther hThere hNe, ?_, fun table hTable ref hRef =>
      hOrigin hThere hNe hTable hRef⟩⟩
  · by_cases hSame : other = set
    · subst hSame
      obtain rfl : table = left := by
        rw [hBody] at hTable
        cases hTable
        rfl
      exact hLeft ref hRef (hKeeps.follows.isLive_element (hLives other hThere) hBody hRef).2
    · rw [hOther hThere hSame] at hTable
      rw [hOrigin hThere hSame hTable hRef]
      exact hServes.elements other hThere table hTable ref hRef
  · rw [hCursor, hKeeps.cursors]
    exact hServes.started entry hEntry
  · exact List.map_congr_left fun number _ => hCursor number

section Operations

variable (hSet : set ∈ scene.sets) (hBody : state.world.host.body set = .set table)

include hSet hBody

omit hProvides in
/-- An element is known by the same when the item has crossed. -/
theorem origin_asked (item? : Option NativeValue) (hRef : ref ∈ table.toList) :
    scene.origin (askedIn state.world item?) ref = scene.origin state.world ref := by
  cases item? with
  | none => rfl
  | some item =>
    obtain ⟨_, hExtends⟩ := hServes.follows.crossed hOpens item
    exact origin_eq (hExtends.body_eq ((hServes.contains hBody hSet).concerns ref hRef).live)

/-- A use that only hands something out, or starts or moves no iterator, leaves the set as it was. -/
theorem performs_grows (hSaves : state.world.Saves after) (hGrows : state.world.Grows after)
    (item? : Option NativeValue) (told : Telling) :
    scene.Performs owned set (askedIn state.world item?) ⟨told, table, state.cursors set⟩ state
      (told.seen (askedIn state.world item?).host, ⟨after, state.started⟩) := by
  have hOrigins : scene.origin after = scene.origin state.world := origin_grows hGrows
  have hRetables : scene.Retables set table state.world after :=
    ⟨hServes.follows.keeps_grows hGrows, fun _ => (hGrows.body_eq set).trans hBody⟩
  obtain ⟨hAfter, hTable, hSpares⟩ := hServes.retables hOpens hProvides hSet hSaves hRetables fun ref hRef _ => by
    rw [hOrigins]
    exact hServes.elements set hSet table hBody ref hRef
  refine ⟨rfl, hAfter, hTable, ?_, fun ref hRef => ?_, hSpares⟩
  · exact List.map_congr_left fun number _ => World.cursor_congr hGrows.cursors number
  · rw [hOrigins]
    exact (hServes.origin_asked hOpens hSet hBody item? hRef).symm

/-- An operation makes of the set what the scene says. -/
theorem performs_operated {operation : SetOperation NativeValue} (tell : Except Fault SetAnswer → UseReply)
    (hItem : ∀ item, operation.item? = some item → item.Lasts scene owned) (hSaves : state.world.Saves after)
    (hRetables : scene.Retables set (table.leftBy (scene.outcomeFor state.world table operation)) state.world after)
    (hLater : ∀ item, operation.item? = some item → operation.isChange = true →
      scene.Keeps {set} (item.crossed state.world).2 after) :
    scene.Performs owned set (askedIn state.world operation.item?)
      (scene.operated state.world table (state.cursors set) operation tell) state
      (tell ((scene.outcomeFor state.world table operation).map Prod.fst), ⟨after, state.started⟩) := by
  have hOrigin (ref : Ref) (hRef : ref ∈ (table.leftBy (scene.outcomeFor state.world table operation)).toList)
      (hLive : after.host.isLive ref = true) :
      scene.origin after ref = scene.origin (askedIn state.world operation.item?) ref ∧
        scene.conduct.items (scene.origin after ref) ∧ (scene.origin after ref).IsTold := by
    rcases mem_of_outcome hRef with hOld | ⟨hChange, hKey⟩
    · have hBefore := (hServes.contains hBody hSet).concerns ref hOld
      have hSame := hRetables.keeps.origin_eq hOpens hSet hBefore.live hLive
      rw [hServes.origin_asked hOpens hSet hBody operation.item? hOld, hSame]
      exact ⟨rfl, hServes.elements set hSet table hBody ref hOld⟩
    · obtain ⟨item, hSome, rfl⟩ : ∃ item, operation.item? = some item ∧ (item.crossed state.world).1 = ref := by
        cases operation <;> cases hChange <;> cases hKey
        · exact ⟨_, rfl, rfl⟩
        · exact ⟨_, rfl, rfl⟩
      have hIsChange : operation.isChange = true := by cases operation <;> exact hChange
      have hLasts := hItem item hSome
      have hThere := (hServes.presents hOpens hLasts).concerns
      have hSame := (hLater item hSome hIsChange).origin_eq hOpens hSet hThere.live hLive
      rw [hSome, hSame]
      refine ⟨rfl, hThere.items, ?_⟩
      rw [hServes.origin_crossed hOpens hLasts]
      exact hLasts.isTold
  obtain ⟨hAfter, hTable, hSpares⟩ := hServes.retables hOpens hProvides hSet hSaves hRetables fun ref hRef hLive =>
    (hOrigin ref hRef hLive).2
  refine ⟨rfl, hAfter, hTable, ?_, fun ref hRef => (hOrigin ref hRef ?_).1, hSpares⟩
  · exact List.map_congr_left fun number _ => World.cursor_congr hRetables.keeps.cursors number
  · exact (hAfter.follows.isLive_element (hAfter.live hProvides hSet) hTable hRef).2

end Operations

end Serves

end Scene

end HeapBridge
