import HeapBridge.Proofs.Failures.Asking
import HeapBridge.Proofs.Scenes.Walking
/-!
Failures that restore the world. Whatever an operation of the bridge makes on its way, and whatever it refers to
meanwhile, is gone and given back when it fails, so that nothing has become of any object and as many places refer
to it as before. At most some storage has been refused.
-/
namespace HeapBridge

open Host (Body Fault Heap HostM Object Ref SetTable)

variable {before middle after world : World} {ref : Ref} {refs : List Ref} {body other : Body} {α β : Type}
  {value : NativeValue}

namespace World

/-- Whether nothing has become of any object, and only storage may have been refused. -/
structure Restored (before after : World) : Prop where
  calm : Undisturbed { before with refusals := after.refusals } after
  refusals : after.refusals ⊆ before.refusals

theorem Undisturbed.restored (hCalm : before.Undisturbed after) : before.Restored after := by
  have hRefusals : after.refusals = before.refusals := by rw [hCalm.aside]
  refine ⟨?_, hRefusals ▸ List.Subset.refl _⟩
  rw [hRefusals]
  exact hCalm

namespace Restored

theorem of_calm {refusals : List Bool} (hRefusals : refusals ⊆ before.refusals)
    (hCalm : Undisturbed { before with refusals } after) : before.Restored after := by
  have hSame : after.refusals = refusals := by rw [hCalm.aside]
  refine ⟨?_, hSame ▸ hRefusals⟩
  rw [hSame]
  exact hCalm

theorem refl (world : World) : world.Restored world := (Undisturbed.refl world).restored

theorem trans (hFirst : before.Restored middle) (hSecond : middle.Restored after) : before.Restored after := by
  have hEarlier :
      Undisturbed { before with refusals := after.refusals } { middle with refusals := after.refusals } := by
    refine ⟨?_, hFirst.calm.size, hFirst.calm.object⟩
    conv_lhs => rw [hFirst.calm.aside]
  exact ⟨hEarlier.trans hSecond.calm, List.Subset.trans hSecond.refusals hFirst.refusals⟩

/-- What is restored has at most grown meanwhile. -/
theorem grows (hRestored : before.Restored after) : before.Grows after := by
  have hGrows := hRestored.calm.grows
  have hSame (ref : Ref) : Mentions { before with refusals := after.refusals } ref ↔ before.Mentions ref :=
    mentions_aside rfl rfl rfl rfl
  obtain ⟨extra, hHeld, hExtra⟩ := hGrows.held
  exact { hGrows with
    refusals := hRestored.refusals
    mentions := fun ref hMentions => (hSame ref).mp (hGrows.mentions ref hMentions)
    held := ⟨extra, hHeld, fun ref hRef => (hSame ref).mp (hExtra ref hRef)⟩ }

/-- What was made goes on with another body. -/
theorem setBody (hRestored : (before.making body).Restored middle) (hBecomes : body.canBecome other = true) :
    (before.making other).Restored
      { middle with host := middle.host.setBody (.object before.host.cells.size) other } := by
  obtain ⟨hPut, hSize, hObject⟩ := setBody_making hRestored.grows.object hRestored.grows.size hBecomes
  refine ⟨⟨?_, hSize, hObject⟩, hRestored.refusals⟩
  rw [hPut]
  conv_lhs => rw [hRestored.calm.aside]
  rfl

/-- References that were taken before to what is referred to elsewhere are given back. -/
theorem giveBack (hRestored : (before.holdAll refs).Restored middle)
    (hReferenced : ∀ ref ∈ refs, ref.isObject = true → before.isReferenced ref = true) :
    before.Restored (refs.foldl (fun world ref => world.letGo ref) middle) := by
  rw [(hRestored.grows.giveBack hReferenced).1]
  exact .of_calm hRestored.refusals hRestored.calm.unholdAll

end Restored

/-- Whether nothing has become of any object but of one that was made. -/
def RestoredBeside (before after : World) : Prop :=
  ∃ body : Body, body.isHandle = false ∧ (∀ ref ∈ body.references, before.isReferenced ref = true) ∧
    (before.making body).Restored after

/-- What was made is given back, and gone. -/
theorem RestoredBeside.giveBack (hWhole : before.IsWhole) (hBeside : before.RestoredBeside middle) :
    before.Restored (middle.letGo (.object before.host.cells.size)) := by
  obtain ⟨body, hHandle, hRefs, hRestored⟩ := hBeside
  have hCalm : Undisturbed { before with
      host := (before.host.allocate { body }).2, refusals := middle.refusals }
      (middle.unholdAll [.object before.host.cells.size]) := by
    apply Undisturbed.unholdAll
    exact hRestored.calm
  have hLess : World.IsWhole { before with refusals := middle.refusals } := hWhole
  obtain ⟨last, hRelease, hLast⟩ := hLess.eval_release_made hHandle hRefs hCalm
  have hLeft : middle.letGo (.object before.host.cells.size) = last := congrArg Prod.snd hRelease
  rw [hLeft]
  exact .of_calm hRestored.refusals hLast

theorem IsWhole.restored (hWhole : before.IsWhole) (hRestored : before.Restored after) : after.IsWhole := by
  have hLess : World.IsWhole { before with refusals := after.refusals } := hWhole
  exact hLess.undisturbed hRestored.calm

theorem Enlarges.restored (hLater : world.Enlarges before) (hRestored : before.Restored after) :
    world.Enlarges after :=
  ⟨hLater.more.trans hRestored.grows.extends, hLater.whole.restored hRestored⟩

end World

namespace BridgeM

/-- Whether a world is left of which something holds. With an answer that is free any may be left. -/
def Leaves (free : α → Prop) (holds : World → Prop) : Except BridgeError α × World → Prop
  | (.ok answer, after) => free answer ∨ holds after
  | (.error _, after) => holds after

variable {free : α → Prop}

/-- Something may be done afterwards. -/
theorem Leaves.changed {holds others : World → Prop} {change : World → World} {outcome : Except BridgeError α × World}
    (hLeaves : Leaves free holds outcome) (hChange : ∀ after, holds after → others (change after)) :
    Leaves free others (outcome.1, change outcome.2) := by
  rcases outcome with ⟨error | answer, after⟩
  · exact hChange after hLeaves
  · exact hLeaves.imp_right (hChange after)

theorem Leaves.imp {holds others : World → Prop} {outcome : Except BridgeError α × World}
    (hLeaves : Leaves free holds outcome) (hImplies : ∀ after, holds after → others after) :
    Leaves free others outcome :=
  Leaves.changed hLeaves hImplies

/-- Whether an operation restores the world when it fails, and when it succeeds as well unless its answer is free. -/
def Spares (free : α → Prop) (operation : BridgeM α) (world : World) : Prop :=
  Leaves free world.Restored (operation.run.run world)

namespace Spares

variable {operation : BridgeM α} {next : α → BridgeM β} {answer : α} {explain : String → BridgeError}
  {call : HostM α} {base : World} {error : BridgeError} {others : β → Prop}

theorem pure : Spares free (Pure.pure answer : BridgeM α) world := .inr (.refl world)

theorem of_ok (hRun : operation.run.run world = (.ok answer, after)) (hFree : free answer ∨ world.Restored after) :
    operation.Spares free world := by
  rw [Spares, hRun]
  exact hFree

/-- What comes first is not free, what comes then may be. -/
theorem bind (hOperation : operation.Spares (fun _ => False) world)
    (hNext : ∀ answer after, operation.run.run world = (.ok answer, after) → world.Restored after →
      (next answer).Spares others after) : (operation >>= next).Spares others world := by
  rw [Spares, run_bind]
  rw [Spares] at hOperation
  rcases hRun : operation.run.run world with ⟨error | answer, middle⟩ <;> rw [hRun] at hOperation
  · exact hOperation
  · have hMiddle := hOperation.resolve_left id
    exact (hNext answer middle hRun hMiddle).imp fun _ => hMiddle.trans

/-- What comes then does not fail. -/
theorem followed (hOperation : operation.Spares (fun _ => True) world)
    (hNext : ∀ answer middle, ∃ last after, (next answer).run.run middle = (.ok last, after) ∧ others last) :
    (operation >>= next).Spares others world := by
  rw [Spares, run_bind]
  rw [Spares] at hOperation
  rcases hRun : operation.run.run world with ⟨error | answer, middle⟩ <;> rw [hRun] at hOperation
  · exact hOperation
  · obtain ⟨last, after, hLast, hOthers⟩ := hNext answer middle
    dsimp only
    rw [hLast]
    exact .inl hOthers

theorem map (convert : α → β) (hOperation : operation.Spares free world)
    (hFree : ∀ answer, free answer → others (convert answer)) : (convert <$> operation).Spares others world := by
  rw [Spares, ExceptT.run_map, StateT.run_map]
  rw [Spares] at hOperation
  rcases hRun : operation.run.run world with ⟨error | answer, after⟩ <;> rw [hRun] at hOperation
  · exact hOperation
  · exact hOperation.imp_left (hFree answer)

/-- A host operation is a part of one of the bridge. -/
theorem host {mayChange : Prop} (hLater : base.Enlarges world) (hCall : call.Spares base mayChange {} world) :
    (BridgeM.host explain call).Spares (fun _ => mayChange) world := by
  rw [Spares, BridgeM.run_host]
  rw [HostM.Spares] at hCall
  rcases hRun : HostM.runOn call world with ⟨fault | answer, after⟩ <;> rw [HostM.runOn] at hRun <;>
    rw [hRun] at hCall
  · dsimp only
    rw [fault.textFrom_report_eq]
    exact (hCall.1.trans (hCall.2 after (hLater.undisturbed hCall.1))).restored
  · exact hCall.imp_right World.Undisturbed.restored

/-- What is done at the end is done whatever has come of the operation. -/
theorem keeping_of {holds : World → Prop} (hOperation : Leaves free holds (operation.run.run (world.holdAll refs)))
    (hRestores : ∀ after, holds after → world.Restored (refs.foldl (fun world ref => world.letGo ref) after)) :
    (BridgeM.keeping refs operation).Spares free world := by
  rw [Spares, BridgeM.run_keeping]
  exact hOperation.changed hRestores

/-- What is referred to elsewhere is referred to meanwhile. -/
theorem keeping (hReferenced : ∀ ref ∈ refs, ref.isObject = true → world.isReferenced ref = true)
    (hOperation : operation.Spares free (world.holdAll refs)) : (BridgeM.keeping refs operation).Spares free world :=
  keeping_of hOperation fun _ hRestored => hRestored.giveBack hReferenced

/-- Something is made for an operation only, and may become something else meanwhile. -/
theorem keeping_made {make : BridgeM Ref} {next : Ref → BridgeM α} (hWhole : world.IsWhole)
    (hMake : make.run.run world =
      (.ok (.object world.host.cells.size), { world with host := (world.host.allocate { body }).2 }))
    (hNext : Leaves free world.RestoredBeside ((next (.object world.host.cells.size)).run.run (world.making body))) :
    (make >>= fun ref => BridgeM.keeping [ref] (next ref)).Spares free world := by
  rw [Spares, run_bind, hMake]
  dsimp only
  have hRestores : ∀ after, world.RestoredBeside after →
      world.Restored (after.letGo (.object world.host.cells.size)) := fun _ hBeside => hBeside.giveBack hWhole
  rw [BridgeM.run_keeping]
  exact hNext.changed hRestores

/-- Something is done with the object that a value crosses as, which is gone afterwards if it is new. -/
theorem crossing {next : Ref → BridgeM α} (hWhole : world.IsWhole) (hOwned : value.IsOwned world)
    (hNext : (next (value.crossed world).1).Spares free ((value.crossed world).2.holdAll [(value.crossed world).1])) :
    (value.toHost >>= fun item => BridgeM.keeping [item] (next item)).Spares free world := by
  rcases hOwned.crossed_cases with ⟨hWorld, hReferenced⟩ | ⟨body, hRefs, hHandle, hCrossed⟩
  · rw [hWorld] at hNext
    rw [Spares, run_bind, value.run_toHost, hWorld]
    exact hNext.keeping hReferenced
  · rw [hCrossed] at hNext
    have hMade : value.toHost.run.run world =
        (.ok (.object world.host.cells.size), { world with host := (world.host.allocate { body }).2 }) := by
      rw [value.run_toHost, hCrossed]
    refine keeping_made hWhole hMade (Leaves.imp hNext fun after hRestored => ⟨body, hHandle, ?_, hRestored⟩)
    rw [hRefs]
    exact List.forall_mem_nil _

end Spares

end BridgeM

end HeapBridge
