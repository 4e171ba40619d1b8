import HeapBridge.Proofs.Scenes.Searching
import HeapBridge.Proofs.Sets.Proxies
/-!
Worlds that grow. Nothing has become of anything that was there, but there may be more proxies, and more may be
held of what something refers to. So it is after an operation of the bridge that asks a set for something: what
it made on the way is gone, and what it took on the way it has given back.
-/
namespace HeapBridge

open Host (Body Fault Heap HostM Object Ref SetTable)

variable {scene : Scene} {world before middle after : World} {ref set key : Ref} {refs : List Ref}
  {table : SetTable} {touched : Set Ref} {α β : Type} {value : NativeValue} {body other : Body}

namespace World

/-- What refers to an object does so whatever else there is. -/
theorem mentions_aside (hHost : after.host = before.host) (hNative : after.native = before.native)
    (hCursors : after.cursors = before.cursors) (hRegistry : after.registry = before.registry) :
    after.Mentions ref ↔ before.Mentions ref := by
  constructor <;> rintro (⟨hObject, hRef⟩ | ⟨number, hRef⟩ | hRef | ⟨hObject, hRef⟩ | ⟨hScript, hRef⟩)
  · exact .proxy (hNative ▸ hObject) hRef
  · exact .cursor number (cursor_congr hCursors number ▸ hRef)
  · exact .converter (hRegistry ▸ hRef)
  · exact .object (hHost ▸ hObject) hRef
  · exact .script (hHost ▸ hScript) hRef
  · exact .proxy (hNative ▸ hObject) hRef
  · exact .cursor number (cursor_congr hCursors number ▸ hRef)
  · exact .converter (hRegistry ▸ hRef)
  · exact .object (hHost ▸ hObject) hRef
  · exact .script (hHost ▸ hScript) hRef

theorem mentions_held {held : List Ref} : Mentions { world with held } ref ↔ world.Mentions ref :=
  mentions_aside rfl rfl rfl rfl

/-- Whether nothing has become of anything, and what is held or what proxies refer to in addition is
something that is referred to anyway. -/
structure Grows (before after : World) : Prop where
  scripts : after.host.scripts = before.host.scripts
  size : before.host.cells.size ≤ after.host.cells.size
  object : ∀ address, after.host.object? address = before.host.object? address
  cursors : after.cursors = before.cursors
  registry : after.registry = before.registry
  refusals : after.refusals ⊆ before.refusals
  native : ∀ address object, before.native.object? address = some object →
    after.native.object? address = some object
  mentions : ∀ ref, after.Mentions ref → before.Mentions ref
  held : ∃ extra, after.held.Perm (extra ++ before.held) ∧ ∀ ref ∈ extra, before.Mentions ref

theorem Undisturbed.grows (hCalm : before.Undisturbed after) : before.Grows after := by
  obtain ⟨hAside, hSize, hObject⟩ := hCalm
  refine ⟨by rw [hAside], hSize, hObject, by rw [hAside], by rw [hAside], by rw [hAside]; exact .refl _,
    fun address object hThere => by rw [hAside]; exact hThere, fun ref => ?_, [], by rw [hAside]; rfl,
    List.forall_mem_nil _⟩
  exact (Undisturbed.mentions_iff ⟨hAside, hSize, hObject⟩).mp

namespace Grows

theorem refl (world : World) : Grows world world := (Undisturbed.refl world).grows

/-- Growth adds up. -/
theorem trans (hFirst : before.Grows middle) (hSecond : middle.Grows after) : before.Grows after where
  scripts := hSecond.scripts.trans hFirst.scripts
  size := hFirst.size.trans hSecond.size
  object address := (hSecond.object address).trans (hFirst.object address)
  cursors := hSecond.cursors.trans hFirst.cursors
  registry := hSecond.registry.trans hFirst.registry
  refusals := List.Subset.trans hSecond.refusals hFirst.refusals
  native address object hThere := hSecond.native address object (hFirst.native address object hThere)
  mentions ref hMentions := hFirst.mentions ref (hSecond.mentions ref hMentions)
  held := by
    obtain ⟨earlier, hEarlier, hThere⟩ := hFirst.held
    obtain ⟨later, hLater, hMentioned⟩ := hSecond.held
    refine ⟨later ++ earlier, ?_, fun ref hRef => ?_⟩
    · rw [List.append_assoc]
      exact hLater.trans (hEarlier.append_left later)
    · rcases List.mem_append.mp hRef with hNew | hOld
      · exact hFirst.mentions ref (hMentioned ref hNew)
      · exact hThere ref hOld

theorem view_eq (hGrows : before.Grows after) (ref : Ref) : after.host.view ref = before.host.view ref := by
  cases ref with
  | atom value => rfl
  | object address => rw [Heap.view, Heap.view, hGrows.object]

theorem body_eq (hGrows : before.Grows after) (ref : Ref) : after.host.body ref = before.host.body ref :=
  congrArg Object.body (hGrows.view_eq ref)

theorem isLive_eq (hGrows : before.Grows after) (ref : Ref) : after.host.isLive ref = before.host.isLive ref := by
  cases ref with
  | atom value => rfl
  | object address => rw [Heap.isLive, Heap.isLive, hGrows.object]

theorem leaves (hGrows : before.Grows after) : World.Leaves touched before after where
  scripts := hGrows.scripts
  size := hGrows.size
  object address _ _ := .inl (hGrows.object address)
  cursor _ _ number := by rw [cursor_congr hGrows.cursors]

/-- Growth mentions nothing that was there. -/
theorem mentions_iff (hGrows : before.Grows after) : after.Mentions ref ↔ before.Mentions ref := by
  refine ⟨hGrows.mentions ref, ?_⟩
  rintro (⟨hObject, hRef⟩ | ⟨number, hRef⟩ | hRef | ⟨hObject, hRef⟩ | ⟨hScript, hRef⟩)
  · exact .proxy (hGrows.native _ _ hObject) hRef
  · exact .cursor number (cursor_congr hGrows.cursors number ▸ hRef)
  · exact .converter (hGrows.registry ▸ hRef)
  · exact .object ((hGrows.object _).trans hObject) hRef
  · exact .script (hGrows.scripts ▸ hScript) hRef

/-- Growth does not make anyone let go. -/
theorem isReferenced_iff (hGrows : before.Grows after) :
    after.isReferenced ref = true ↔ before.isReferenced ref = true := by
  obtain ⟨extra, hHeld, hMentioned⟩ := hGrows.held
  rw [World.isReferenced_iff, World.isReferenced_iff, hGrows.mentions_iff, hHeld.mem_iff, List.mem_append]
  constructor
  · rintro ((hExtra | hOld) | hMentions)
    · exact .inr (hMentioned ref hExtra)
    · exact .inl hOld
    · exact .inr hMentions
  · rintro (hOld | hMentions)
    · exact .inl (.inr hOld)
    · exact .inr hMentions

/-- A reference that was taken before is given back. -/
theorem unhold (hGrows : (before.hold ref).Grows middle) : before.Grows (middle.unhold ref) := by
  obtain ⟨extra, hHeld, hMentioned⟩ := hGrows.held
  have hLeft : (middle.unhold ref).held.Perm (extra ++ before.held) := by
    have hErased := hHeld.erase ref
    have hMoved : (extra ++ (before.hold ref).held).Perm (ref :: (extra ++ before.held)) := List.perm_middle
    exact hErased.trans ((hMoved.erase ref).trans (by rw [List.erase_cons_head]))
  refine ⟨hGrows.scripts, hGrows.size, hGrows.object, hGrows.cursors, hGrows.registry, hGrows.refusals,
    hGrows.native, fun other hMentions => ?_, extra, hLeft, fun other hOther => ?_⟩
  · exact mentions_held.mp (hGrows.mentions other (mentions_held.mp hMentions))
  · exact mentions_held.mp (hMentioned other hOther)

/-- References that were taken before to what is referred to elsewhere are given back, and that is all. -/
theorem giveBack (hGrows : (before.holdAll refs).Grows middle)
    (hReferenced : ∀ ref ∈ refs, ref.isObject = true → before.isReferenced ref = true) :
    refs.foldl (fun world ref => world.letGo ref) middle = middle.unholdAll refs ∧
      before.Grows (middle.unholdAll refs) := by
  induction refs generalizing middle with
  | nil => exact ⟨rfl, hGrows⟩
  | cons ref rest ih =>
    have hFirst : (before.holdAll rest).Grows (middle.unhold ref) :=
      Grows.unhold hGrows
    have hSame : middle.letGo ref = middle.unhold ref := by
      rw [letGo, release, HostM.runOn, Host.eval_release_referenced]
      intro other hOther hObject
      rw [List.mem_singleton.mp hOther] at hObject ⊢
      exact hFirst.isReferenced_iff.mpr
        (World.isReferenced_holdAll (hReferenced ref List.mem_cons_self hObject) rest)
    rw [List.foldl_cons, hSame]
    exact ih hFirst fun other hOther => hReferenced other (List.mem_cons_of_mem _ hOther)

end Grows

/-- The world with an object of a built-in type at a new address, which is held. -/
def making (world : World) (body : Body) : World :=
  World.hold (.object world.host.cells.size) { world with host := (world.host.allocate { body }).2 }

theorem object?_making (world : World) (body : Body) (address : Nat) :
    (world.making body).host.object? address =
      if address = world.host.cells.size then some { body } else world.host.object? address :=
  Heap.object?_allocate world.host { body } address

/-- What is made refers to what is referred to elsewhere, so nothing else is. -/
theorem mentions_making (hRefs : ∀ ref ∈ body.references, world.Mentions ref) :
    (world.making body).Mentions ref ↔ world.Mentions ref := by
  have hSame : (world.making body).Mentions ref ↔
      World.Mentions { world with host := (world.host.allocate { body }).2 } ref := World.mentions_held
  rw [making, hold]
  refine hSame.trans ⟨fun hMentions => ?_, fun hMentions => ?_⟩
  · rcases hMentions.cases rfl with hBefore | ⟨address, object, hObject, hRef⟩
    · exact hBefore
    · rw [Heap.object?_allocate] at hObject
      split at hObject
      · cases hObject
        exact hRefs ref hRef
      · exact .object hObject hRef
  · rcases hMentions with ⟨hObject, hRef⟩ | ⟨number, hRef⟩ | hRef | ⟨hObject, hRef⟩ | ⟨hScript, hRef⟩
    · exact .proxy hObject hRef
    · exact .cursor number hRef
    · exact .converter hRef
    · exact .object ((Heap.object?_allocate_of_lt (Heap.lt_size_of_object? hObject)).trans hObject) hRef
    · exact .script hScript hRef

/-- What was made can be told from all else when it goes on with another body. -/
theorem setBody_making (hSame : ∀ address, middle.host.object? address = (before.making body).host.object? address)
    (hSize : (before.making body).host.cells.size ≤ middle.host.cells.size) (hBecomes : body.canBecome other = true) :
    middle.host.setBody (.object before.host.cells.size) other =
        middle.host.put before.host.cells.size { body := other } ∧
      (before.making other).host.cells.size ≤
        (middle.host.setBody (.object before.host.cells.size) other).cells.size ∧
      ∀ address, (middle.host.setBody (.object before.host.cells.size) other).object? address =
        (before.making other).host.object? address := by
  have hFresh : middle.host.object? before.host.cells.size = some { body } := by
    rw [hSame, object?_making, if_pos rfl]
  have hPut : middle.host.setBody (.object before.host.cells.size) other =
      middle.host.put before.host.cells.size { body := other } := by
    simp only [Heap.setBody, hFresh, if_pos hBecomes]
  have hMade : (before.making other).host.cells.size = (before.making body).host.cells.size :=
    (Array.size_push _).trans (Array.size_push _).symm
  refine ⟨hPut, ?_, fun address => ?_⟩
  · rw [hPut, hMade]
    exact hSize.trans (Array.size_setIfInBounds ..).ge
  · rw [hPut, Heap.object?_put hFresh, object?_making, hSame, object?_making]
    split <;> rfl

namespace Grows

/-- What was made goes on with another body. -/
theorem setBody (hGrows : (before.making body).Grows middle) (hBecomes : body.canBecome other = true)
    (hRefs : ∀ ref ∈ body.references, before.Mentions ref)
    (hOthers : ∀ ref ∈ other.references, before.Mentions ref) :
    (before.making other).Grows
      { middle with host := middle.host.setBody (.object before.host.cells.size) other } := by
  obtain ⟨hSet, hSize, hObject⟩ := setBody_making hGrows.object hGrows.size hBecomes
  rw [hSet] at hSize hObject ⊢
  refine ⟨hGrows.scripts, hSize, hObject, hGrows.cursors, hGrows.registry, hGrows.refusals, hGrows.native,
    fun ref hMentions => ?_, ?_⟩
  · rw [mentions_making hOthers]
    rcases hMentions.cases rfl with hThere | ⟨address, object, hHere, hRef⟩
    · exact (mentions_making hRefs).mp (hGrows.mentions ref hThere)
    · exact (mentions_making hOthers).mp (.object ((hObject address).symm.trans hHere) hRef)
  · obtain ⟨extra, hHeld, hMentioned⟩ := hGrows.held
    exact ⟨extra, hHeld, fun ref hRef =>
      (mentions_making hOthers).mpr ((mentions_making hRefs).mp (hMentioned ref hRef))⟩

/-- What was made is given back, and gone. -/
theorem giveBack_made (hFollows : scene.Follows before) (hGrows : (before.making body).Grows middle)
    (hHandle : body.isHandle = false) (hRefs : ∀ ref ∈ body.references, before.Mentions ref) :
    before.Grows (middle.letGo (.object before.host.cells.size)) ∧
      (middle.letGo (.object before.host.cells.size)).native = middle.native := by
  have hNew : ∀ ref, before.isReferenced ref = true → ref ≠ .object before.host.cells.size := by
    rintro _ hReferenced rfl
    obtain ⟨object, hObject⟩ := Option.isSome_iff_exists.mp (hFollows.whole _ hReferenced)
    exact absurd (Heap.lt_size_of_object? hObject) (Nat.lt_irrefl _)
  obtain ⟨extra, hHeld, hMentioned⟩ := hGrows.held
  have hThere : ∀ ref ∈ extra, before.Mentions ref := fun ref hRef => (mentions_making hRefs).mp (hMentioned ref hRef)
  have hLeft : (middle.unhold (.object before.host.cells.size)).held.Perm (extra ++ before.held) := by
    have hErased := hHeld.erase (.object before.host.cells.size)
    have hMoved : (extra ++ (before.making body).held).Perm
        (.object before.host.cells.size :: (extra ++ before.held)) := List.perm_middle
    exact hErased.trans ((hMoved.erase _).trans (by rw [List.erase_cons_head]))
  have hMentions (ref : Ref) (hMentions : (middle.unhold (.object before.host.cells.size)).Mentions ref) :
      before.Mentions ref := (mentions_making hRefs).mp (hGrows.mentions ref (mentions_held.mp hMentions))
  have hFresh : middle.host.object? before.host.cells.size = some { body } := by
    rw [hGrows.object, object?_making, if_pos rfl]
  have hAbandoned : Host.isAbandoned before.host.cells.size (middle.unhold (.object before.host.cells.size)) = true := by
    have hLive : middle.host.isLive (.object before.host.cells.size) = true :=
      Option.isSome_iff_exists.mpr ⟨_, hFresh⟩
    change (middle.host.isLive _ && _) = true
    rw [hLive, Bool.true_and, Bool.not_eq_true', ← Bool.not_eq_true, World.isReferenced_iff]
    rintro (hHere | hHere)
    · rcases List.mem_append.mp (hLeft.mem_iff.mp hHere) with hExtra | hOld
      · exact hNew _ (World.isReferenced_iff.mpr (.inr (hThere _ hExtra))) rfl
      · exact hNew _ (World.isReferenced_iff.mpr (.inl hOld)) rfl
    · exact hNew _ (World.isReferenced_iff.mpr (.inr (hMentions _ hHere))) rfl
  have hGone (address : Nat) : (middle.host.free before.host.cells.size).object? address =
      before.host.object? address := by
    by_cases hSame : before.host.cells.size = address
    · subst hSame
      rw [Heap.object?_free_self]
      cases hObject : before.host.object? before.host.cells.size with
      | none => rfl
      | some object => exact absurd (Heap.lt_size_of_object? hObject) (Nat.lt_irrefl _)
    · rw [Heap.object?_free_of_ne hSame, hGrows.object, object?_making, if_neg fun hEqual => hSame hEqual.symm]
  have hGrown : before.Grows { (middle.unhold (.object before.host.cells.size)) with
      host := middle.host.free before.host.cells.size } := by
    refine ⟨hGrows.scripts, ?_, hGone, hGrows.cursors, hGrows.registry, hGrows.refusals, hGrows.native,
      fun ref hHere => ?_, extra, hLeft, hThere⟩
    · have hMade : before.host.cells.size ≤ middle.host.cells.size :=
        (Nat.le_succ _).trans ((Array.size_push _).ge.trans hGrows.size)
      exact hMade.trans (Array.size_setIfInBounds ..).ge
    · have hCases : (middle.unhold (.object before.host.cells.size)).Mentions ref ∨ _ := hHere.cases rfl
      rcases hCases with hThere | ⟨address, object, hObject, hRef⟩
      · exact hMentions ref hThere
      · exact .object ((hGone address).symm.trans hObject) hRef
  rw [letGo, release, HostM.runOn, Host.eval_release_abandoned hAbandoned (Heap.view_of_object? hFresh) hHandle]
  · exact ⟨hGrown, rfl⟩
  · exact fun ref hRef => hGrown.isReferenced_iff.mpr (World.isReferenced_iff.mpr (.inr (hRefs ref hRef)))

end Grows

end World

namespace Scene

/-- A scene goes on in a grown heap. -/
theorem Follows.grows (hFollows : scene.Follows before) (hGrows : before.Grows after) : scene.Follows after := by
  apply hFollows.next (hFollows.leaves.trans hGrows.leaves)
  · exact fun set _ hLive => ⟨hGrows.isLive_eq set ▸ hLive, .inl (hGrows.view_eq set)⟩
  · exact fun address object _ hObject => .inl (hGrows.object address ▸ hObject)
  · intro ref hReferenced
    rw [hGrows.isLive_eq]
    exact hFollows.whole ref (hGrows.isReferenced_iff.mp hReferenced)
  · exact hGrows.refusals

theorem origin_grows (hGrows : before.Grows after) : scene.origin after = scene.origin before :=
  funext fun ref => origin_eq (hGrows.body_eq ref)

theorem Concerns.grows (hConcerns : scene.Concerns before key) (hGrows : before.Grows after) :
    scene.Concerns after key :=
  ⟨(hGrows.isLive_eq key).trans hConcerns.live, origin_grows hGrows ▸ hConcerns.items⟩

/-- Sets keep what they contain there. -/
theorem Contains.grows (hContains : scene.Contains before set table) (hGrows : before.Grows after) :
    scene.Contains after set table where
  follows := hContains.follows.grows hGrows
  live := (hGrows.isLive_eq set).trans hContains.live
  elements := by
    rw [hGrows.body_eq]
    exact hContains.elements
  concerns ref hRef := (hContains.concerns ref hRef).grows hGrows

end Scene

/-! What operations come to. -/

namespace BridgeM

/-- Whether an operation comes to a result, and the world has but grown. -/
structure Yields (operation : BridgeM α) (before : World) (result : Except BridgeError α) (after : World) :
    Prop where
  run : operation.run.run before = (result, after)
  grows : before.Grows after

namespace Yields

variable {operation : BridgeM α} {next : α → BridgeM β} {result : Except BridgeError α} {answer : α}
  {later : Except BridgeError β} {error : BridgeError}

theorem pure : Yields (Pure.pure answer : BridgeM α) world (.ok answer) world := ⟨rfl, .refl world⟩

theorem bind (hFirst : Yields operation before (.ok answer) middle) (hNext : Yields (next answer) middle later after) :
    Yields (operation >>= next) before later after where
  run := by
    rw [run_bind, hFirst.run]
    exact hNext.run
  grows := hFirst.grows.trans hNext.grows

theorem bind_error (hFirst : Yields operation before (.error error) after) :
    Yields (operation >>= next) before (.error error) after where
  run := by rw [run_bind, hFirst.run]
  grows := hFirst.grows

theorem map (convert : α → β) (hFirst : Yields operation before result after) :
    Yields (convert <$> operation) before (result.map convert) after where
  run := by
    rw [ExceptT.run_map, StateT.run_map, hFirst.run]
    cases result <;> rfl
  grows := hFirst.grows

/-- What is referred to elsewhere is referred to while an operation runs. -/
theorem keeping (hReferenced : ∀ ref ∈ refs, ref.isObject = true → before.isReferenced ref = true)
    (hYields : Yields operation (before.holdAll refs) result middle) :
    Yields (BridgeM.keeping refs operation) before result (middle.unholdAll refs) := by
  obtain ⟨hSame, hGrows⟩ := hYields.grows.giveBack hReferenced
  refine ⟨?_, hGrows⟩
  rw [BridgeM.run_keeping, hYields.run, hSame]

/-- Something is made for an operation only. -/
theorem keeping_made {first : BridgeM Ref} (next : Ref → BridgeM α) (hFollows : scene.Follows before)
    (hFirst : first.run.run before =
      (.ok (.object before.host.cells.size), { before with host := (before.host.allocate { body }).2 }))
    (hNext : (next (.object before.host.cells.size)).run.run (before.making body) = (result, middle))
    (hGrows : (before.making other).Grows middle) (hHandle : other.isHandle = false)
    (hRefs : ∀ ref ∈ other.references, before.Mentions ref) :
    ∃ after, Yields (first >>= fun ref => BridgeM.keeping [ref] (next ref)) before result after ∧
      after.native = middle.native := by
  obtain ⟨hGrown, hNative⟩ := hGrows.giveBack_made hFollows hHandle hRefs
  refine ⟨_, ⟨?_, hGrown⟩, hNative⟩
  have hRun : (next (.object before.host.cells.size)).run.run (World.holdAll [.object before.host.cells.size]
    { before with host := (before.host.allocate { body }).2 }) = (result, middle) := hNext
  rw [run_bind, hFirst]
  dsimp only
  rw [BridgeM.run_keeping, hRun]
  rfl

end Yields

end BridgeM

end HeapBridge
