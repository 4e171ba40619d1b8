import HeapBridge.Proofs.Custody.Adoption
import HeapBridge.Proofs.Registration.Poisoning
/-!
Acts. An act is one thing that the bridge does to the world together with what it logs of it: a proxy is made
and its creation logged, a wrapper is registered and that is logged, and so on. The steps that a command is made
of are acts, as long as the books are in order.
-/
namespace HeapBridge

open Host (HostM Ref)
open Native (NativeClass Payload)

/-- One thing that the bridge does, together with what it logs of it. -/
inductive Act : World → World → Prop
  /-- Host code runs; what a handle owned is released with it, and a proxy may come to its end by that. -/
  | host {before after : World} (change : Host.Change before after) : Act before after
  | reserve (nativeClass : NativeClass) (world : World) : Act world (world.reserve nativeClass).2
  | discard (address : Nat) (world : World) :
      Act world { world with native := world.native.discard address }
  /-- An object that is no proxy is made in storage that was reserved. -/
  | install {address : Nat} {payload : Payload} {world : World}
      (hReserved : world.native.Reserved (some address)) (hOther : payload.nativeClass ≠ .foreignSet) :
      Act world { world with native := world.native.install address payload }
  /-- A proxy is made in storage that was reserved. -/
  | adopt {address : Nat} {world : World} (value : Ref)
      (hReserved : world.native.Reserved (some address)) :
      Act world (World.emit .setCreated
        { world with native := world.native.install address (.foreignSet value) })
  | retain (address : Nat) (world : World) : Act world (world.retainNative address)
  | drop (address : Nat) (world : World) : Act world (world.dropNative address).2
  /-- A handle is made after what it owns was retained. -/
  | handle (handle : Handle) (world : World) :
      Act world { world.retainOwned handle with
        host := ((world.retainOwned handle).host.allocate { body := .handle handle }).2 }
  | register (wrapper : PointerWrapper) (world : World) : Act world ((register wrapper).run.run world).2
  /-- What came of the first installation of the built-in wrappers is noted. -/
  | installed {world : World} (outcome : Except BridgeError Unit)
      (hFirst : world.registry.builtins = none) :
      Act world { world.note (installationEvent outcome) with
        registry := { world.registry with builtins := some outcome } }
  /-- A writer dies in the middle of its work. -/
  | die (wrapper : PointerWrapper) (world : World) :
      Act world ((dieRegistering wrapper).run.run world).2
  /-- Something is told to callers, or forgotten. -/
  | told (lastErrors returned : List (Thread × String)) (world : World) :
      Act world { world with lastErrors, returned }
  | startCursor (cursor : Cursor) (world : World) : Act world (world.startCursor cursor).2
  | moveCursor (number : Nat) (cursor : Cursor) (world : World) :
      Act world (world.moveCursor number cursor)

inductive Acts (start : World) : World → Prop
  | refl : Acts start start
  | step {middle finish : World} (prior : Acts start middle) (last : Act middle finish) :
      Acts start finish

namespace Acts

variable {start middle finish : World}

theorem one (act : Act start finish) : Acts start finish := .step .refl act

theorem trans (first : Acts start middle) (second : Acts middle finish) : Acts start finish := by
  induction second with
  | refl => exact first
  | step _ last ih => exact .step ih last

theorem host (changes : Host.Changes start finish) : Acts start finish := by
  induction changes with
  | refl => exact .refl
  | step _ last ih => exact .step ih (.host last)

end Acts

namespace Step

variable {may : Deed → Prop} {start finish : Ledger}

/-- A step is one act or more. If the books are in order an object is only made in storage that was reserved. -/
theorem acts (step : Step may start finish) (hBalanced : start.account.Balanced) :
    Acts start.world finish.world := by
  have hReserved {address : Nat} {world : World} {before rest : Estate}
      (hBalanced : Account.Balanced ⟨before.1, world⟩)
      (hBefore : before = .ofNative {.storage address} + rest) : world.native.Reserved (some address) := by
    intro other hSame
    obtain rfl := Option.some.inj hSame
    refine hBalanced.stored address ?_
    rw [hBefore, Estate.fst_ofNative_add]
    simp
  cases step with
  | host visits => exact .host visits.changes
  | hold refs => exact .host (Host.Change.hold refs).toChanges
  | unhold ref => exact .host (Host.Change.unhold ref).toChanges
  | reserve nativeClass => exact .one (.reserve nativeClass _)
  | discard address => exact .one (.discard address _)
  | abandon => exact .refl
  | install address hOther hBefore => exact .one (.install (hReserved hBalanced hBefore) hOther)
  | adopt address value hBefore => exact .one (.adopt value (hReserved hBalanced hBefore))
  | retain address => exact .one (.retain address _)
  | drop address => exact .one (.drop address _)
  | handle handle => exact .one (.handle handle _)
  | register wrapper => exact .one (.register wrapper _)
  | installed outcome _ hFirst => exact .one (.installed outcome hFirst)
  | die wrapper => exact .one (.die wrapper _)
  | told lastErrors returned => exact .one (.told lastErrors returned _)
  | startCursor cursor => exact .one (.startCursor cursor _)
  | moveCursor number cursor => exact .one (.moveCursor number cursor _)

end Step

theorem Steps.acts {may : Deed → Prop} {start finish : Ledger} (steps : Steps may start finish)
    (hBalanced : start.account.Balanced) : Acts start.world finish.world := by
  induction steps with
  | refl => exact .refl
  | tail prior last ih => exact ih.trans (last.acts ((Steps.moves prior).balanced hBalanced))

variable {session : Session} {command : Command}

/-- Every proper command proceeds by acts. -/
theorem Command.acts_run (hSound : session.Sound) (hProper : command.IsProper) :
    Acts (command.forget session.world) (command.run.run.run session).2.world := by
  obtain ⟨lost, hBalanced⟩ := hSound
  obtain ⟨more, _, hLost⟩ := command.exists_loses hProper session
  refine (hLost (.ofNative lost)).acts ?_
  unfold forget
  split <;> exact hBalanced

/-- So does what is reclaimed after it. -/
theorem Command.acts_perform (hSound : session.Sound) (hProper : command.IsProper) :
    Acts (command.forget session.world) (Session.perform command session).2.world := by
  rw [Session.perform_snd]
  exact (command.acts_run hSound hProper).trans (.host (World.changes_settle _))

end HeapBridge
