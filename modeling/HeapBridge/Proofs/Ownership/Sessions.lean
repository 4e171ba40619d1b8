import HeapBridge.Proofs.Ownership.Slots
/-!
What the parts of commands take over and hand on. What is put into a slot is taken over by the session, and
what a slot is cleared of is given up.
-/
namespace HeapBridge.Session

open Host (HostM Ref)
open Native (NativeClass Payload)
open Estate

variable {α : Type} {may : Deed → Prop} {others taken : Estate} {session : Session}

/-- Reading a slot changes nothing; an empty one is refused. -/
theorem run_content (slots : Session → Slots α) (name : String) (session : Session) :
    (content slots name).run.run session =
      (match (slots session).get? name with
        | some found => .ok found
        | none => .error (.rejected (.noSlot name)), session) := by
  change (match (slots session).get? name with
    | some found => pure found
    | none => reject _ : SessionM α).run.run session = _
  cases (slots session).get? name <;> rfl

theorem neutral_content (slots : Session → Slots α) (name : String) :
    Neutral (content slots name) := by
  refine .get fun session => ?_
  split
  · exact .pure
  · exact .throw

/-- What follows the look-up of a slot runs in the same session, with what is in the slot. -/
theorem transfers_content {β : Type} {slots : Session → Slots α} {name : String}
    {next : α → SessionM β} {given : β → Estate}
    (hNext : ∀ found, (slots session).get? name = some found →
      Transfers may others session 0 (next found) given) :
    Transfers may others session 0 (content slots name >>= next) given := by
  refine .bind (neutral_content slots name may others session) fun found middle hRun => ?_
  rw [run_content] at hRun
  split at hRun
  next slot hSlot =>
    cases hRun
    exact hNext _ hSlot
  next => cases hRun

/-- An operation on the world of a session alone takes over and hands on what it does there. -/
theorem transfers_modifyWorld {change : World → World} {given : Estate}
    (hSteps : Steps may ⟨taken + (others + session.estate), session.world⟩
      ⟨given + (others + session.estate), change session.world⟩) :
    Transfers may others session taken (modifyWorld change) fun _ => given := by
  refine .steps ?_
  simpa only [ledger_session, estate_world, add_assoc] using hSteps

theorem neutral_modifyWorld {change : World → World}
    (hSteps : ∀ {may rest} world, Steps may ⟨rest, world⟩ ⟨rest, change world⟩) :
    Neutral (modifyWorld change) :=
  fun _ _ session => transfers_modifyWorld (hSteps session.world)

theorem neutral_modifyIterations {change : Session → Slots Iteration} :
    Neutral (modify fun session => { session with iterations := change session } : SessionM Unit) :=
  fun _ _ _ => .steps (by simpa using .refl)

theorem transfers_hold (ref : Ref) :
    Transfers may others session 0 (modifyWorld (World.hold ref)) fun _ => ofHost {ref} :=
  transfers_modifyWorld (by simpa only [zero_add] using World.steps_hold ref session.world)

theorem transfers_unhold (ref : Ref) :
    Transfers may others session (ofHost {ref}) (modifyWorld (World.unhold ref)) fun _ => 0 :=
  transfers_modifyWorld (by simpa only [zero_add] using World.steps_unhold ref session.world)

theorem transfers_letGo (ref : Ref) :
    Transfers may others session (ofHost {ref}) (modifyWorld (World.letGo ref)) fun _ => 0 :=
  transfers_modifyWorld (by simpa only [zero_add] using World.steps_letGo ref session.world)

/-- Slots are filled and cleared without touching the world; only what they own changes hands. -/
theorem transfers_reassign {change : Session → Session} {given : Estate}
    (hWorld : (change session).world = session.world)
    (hHoldings : given.1 + (change session).holdings = taken.1 + session.holdings)
    (hClaims : given.2 + (change session).claims = taken.2 + session.claims) :
    Transfers may others session taken (modify change : SessionM Unit) fun _ => given := by
  have hEstate : given + (change session).estate = taken + session.estate := Prod.ext hHoldings hClaims
  refine .steps ?_
  simp only [ledger_session, hWorld]
  rw [add_right_comm, ← hEstate, add_right_comm]

/-- Commands reach the bridge through the world of the session. -/
theorem run_bridge (operation : BridgeM α) (session : Session) :
    (bridge operation).run.run session =
      (match (operation.run.run session.world).1 with
        | .ok value => .ok value
        | .error error => .error (.bridge error),
        { session with world := (operation.run.run session.world).2 }) := by
  change (match (operation.run.run session.world).1 with
    | .ok value => pure value
    | .error error => throw (.bridge error) : SessionM α).run.run
      { session with world := (operation.run.run session.world).2 } = _
  rcases operation.run.run session.world with ⟨error | value, after⟩ <;> rfl

/-- What the bridge moves, it moves next to all that the slots hold. -/
theorem transfers_bridge {operation : BridgeM α} {given : α → Estate}
    (hOperation : Transfers may (others + session.estate) session.world taken operation given) :
    Transfers may others session taken (bridge operation) given := by
  unfold Transfers Hands at hOperation ⊢
  rw [run_bridge]
  rcases hRun : operation.run.run session.world with ⟨error | value, after⟩ <;>
    rw [hRun] at hOperation <;>
    simpa only [ledger_world, ledger_session, estate_world, add_assoc, onSuccess_ok,
      onSuccess_error] using hOperation

theorem neutral_bridge {operation : BridgeM α} (hOperation : Neutral operation) :
    Neutral (bridge operation) :=
  fun may _ session => transfers_bridge (hOperation may _ session.world)

theorem neutral_modifyGetWorld {β : Type} {change : Session → β × World}
    (hVisits : ∀ session, Host.Visits session.world (change session).2) :
    Neutral (modifyGet fun session =>
      ((change session).1, { session with world := (change session).2 }) : SessionM β) :=
  fun _ _ session => .stepsGet (by simpa using (Step.host (hVisits session)).toSteps)

theorem neutral_failFor (fault : Host.Fault) : Neutral (failFor fault : SessionM α) :=
  .bind (neutral_modifyGetWorld fun session => World.visits_textFrom _ session.world) fun _ =>
    .throw

theorem neutral_host (operation : HostM α) : Neutral (host operation) := by
  refine .bind (neutral_modifyGetWorld
    fun session => HostM.visits_runOn operation session.world) fun outcome => ?_
  cases outcome with
  | ok value => exact .pure
  | error fault => exact neutral_failFor fault

theorem neutral_build (literal : Host.Literal) : Neutral (build literal) := by
  refine .get fun session => .bind (neutral_host _) fun outcome => ?_
  cases outcome with
  | ok ref => exact .pure
  | error name => exact .throw

theorem neutral_buildEach (literals : List Host.Literal) : Neutral (buildEach literals) := by
  induction literals with
  | nil => exact .pure
  | cons literal rest ih => exact .bind (neutral_build literal) fun _ => .bind ih fun _ => .pure

theorem transfers_letGoAll (refs : List Ref) :
    Transfers may others session (ofHost ↑refs)
      (modifyWorld fun world => refs.foldl (fun world ref => world.letGo ref) world) fun _ => 0 :=
  transfers_modifyWorld (by simpa only [zero_add] using World.steps_letGoAll refs session.world)

/-- Arguments are given back after a call, whatever comes of it. -/
theorem neutral_withArguments {action : SessionM Ref} (arguments : List Ref)
    (hAction : Neutral action) : Neutral (withArguments arguments action) := by
  intro may others session
  refine .via (fun _ => ofHost ↑arguments) (transfers_modifyWorld ?_) fun _ middle _ => ?_
  · rw [zero_add]
    exact (Step.hold arguments rfl).toSteps
  · have hFailed (failure : Failure) (after : Session) : Transfers may others after (ofHost ↑arguments) (do
        modifyWorld fun world => arguments.foldl (fun world ref => world.letGo ref) world
        throw failure : SessionM Ref) fun _ => ofHost ↑arguments + 0 :=
      .bind (transfers_letGoAll arguments) fun _ _ _ => .throw
    refine .bind ((hAction may _ middle).handledKeeping hFailed) fun answer after _ => ?_
    refine .via (fun _ => ofHost ↑arguments + ofHost {answer}) (transfers_modifyWorld ?_) fun _ held _ =>
      .via (fun _ => ofHost {answer}) (transfers_modifyWorld ?_) fun _ _ _ =>
        .bind (transfers_unhold answer) fun _ _ _ => .pure rfl
    · rw [add_zero, add_comm (ofHost ↑arguments) (ofHost {answer}), add_assoc]
      exact World.steps_hold answer after.world
    · rw [add_assoc]
      exact World.steps_letGoAll arguments held.world

/-! Slots for host objects and native values take over the references that are put into them. -/

/-- A slot for a host object takes a reference with it. -/
theorem neutral_keepHost (name : String) (ref : Ref) : Neutral (keepHost name ref) := by
  refine fun may others session => .get (.bind (transfers_hold ref) fun _ middle hRun => ?_)
  have hHosts : middle.hosts = session.hosts := by
    cases hRun
    rfl
  refine .via (fun _ => ofHost ((session.hosts.get? name).elim 0 HostSlot.claims))
    (transfers_reassign rfl rfl ?_) fun _ after _ => ?_
  · rw [← hHosts]
    exact claims_putHost middle name _
  · cases session.hosts.get? name with
    | some old => exact transfers_letGo old.ref
    | none => exact .pure rfl

theorem neutral_showAndKeep (name : Option String) (ref : Ref) :
    Neutral (showAndKeep name ref) := by
  cases name with
  | some name => exact .bind (neutral_keepHost name ref) fun _ => .get fun _ => .pure
  | none =>
    exact .get fun _ => .bind (neutral_modifyWorld fun world =>
      (Step.host (world.visits_release [ref])).toSteps) fun _ => .pure

theorem neutral_backing (name : String) : Neutral (backing name) := by
  refine .bind (neutral_content _ name) fun slot => .get fun session => ?_
  split
  · exact .pure
  · exact .throw

/-- Looking up a backing value changes nothing. -/
theorem run_backing (name : String) (session : Session) :
    (backing name).run.run session =
      (match session.objects.get? name with
        | none => .error (.rejected (.noSlot name))
        | some slot =>
          match session.world.native.backing? slot.address with
          | some ref => .ok ref
          | none => .error (.rejected .notForeignSet), session) := by
  rw [backing, run_bind, run_content]
  cases session.objects.get? name with
  | none => rfl
  | some slot =>
    change (match session.world.native.backing? slot.address with
      | some ref => pure ref
      | none => reject .notForeignSet : SessionM Ref).run.run session = _
    cases hBacking : session.world.native.backing? slot.address with
    | none => simp only [hBacking]; rfl
    | some ref => simp only [hBacking]; rfl

/-- What follows the look-up of a backing value runs in the same session. -/
theorem transfers_backing {name : String} {next : Ref → SessionM α} {given : α → Estate}
    (hNext : ∀ ref, Transfers may others session 0 (next ref) given) :
    Transfers may others session 0 (backing name >>= next) given := by
  refine .bind (neutral_backing name may others session) fun ref middle hRun => ?_
  rw [run_backing] at hRun
  obtain rfl := (Prod.mk.inj hRun).2
  exact hNext ref

theorem neutral_hostOf (name : String) : Neutral (hostOf name) :=
  .bind (neutral_content _ name) fun _ => .pure

/-- Emptying the slot lets that reference go. -/
theorem neutral_dropHost (name : String) : Neutral (dropHost name) := by
  refine fun may others session => .get ?_
  split
  next slot hSlot =>
    have hErase := claims_eraseHost session name
    rw [hSlot, Option.elim_some] at hErase
    refine .via (fun _ => ofHost slot.claims) (transfers_reassign rfl rfl ?_) fun _ _ _ =>
      .bind (transfers_letGo slot.ref) fun _ _ _ => .pure rfl
    exact hErase.trans (zero_add _).symm
  next => exact .pure rfl

theorem neutral_attributeOf (ref : Ref) (name : String) : Neutral (attributeOf ref name) := by
  refine .get fun session => ?_
  split
  · exact .pure
  · exact .bind (neutral_host _) fun value => .bind (neutral_showAndKeep none value) fun _ => .pure

theorem transfers_buildOwned (literal : Host.Literal) :
    Transfers may others session 0 (buildOwned literal) fun ref => ofHost {ref} :=
  .bind (neutral_build literal may others session) fun ref _ _ =>
    .bind (transfers_hold ref) fun _ _ _ => .pure rfl

/-- Filling the slot of an iteration gives up the iterator that was in it. -/
theorem transfers_keepIteration {name : String} (iteration : Iteration)
    (hMay : ∀ old, session.iterations.get? name = some old → may (.cursor old.number)) :
    Transfers may others session 0 (keepIteration name iteration) fun _ => 0 := by
  refine .get (.bind (neutral_modifyIterations may others session) fun _ _ _ => ?_)
  split
  next old hOld =>
    refine transfers_modifyWorld ?_
    rw [zero_add]
    exact ForeignSet.steps_dropIterator (hMay old hOld) _
  next => exact .pure rfl

/-- Starting an iteration under a name in use ends the one that had it. -/
theorem transfers_startIteration {slot name : String} {stepping : Stepping}
    (hMay : ∀ old, session.iterations.get? name = some old → may (.cursor old.number)) :
    Transfers may others session 0 (startIteration slot name stepping) fun _ => 0 := by
  refine transfers_backing fun ref => .bind (neutral_bridge (ForeignSet.neutral_iterate ref) may
    others session) fun number middle hRun => ?_
  have hIterations : middle.iterations = session.iterations := by
    rw [run_bridge] at hRun
    rw [← (Prod.mk.inj hRun).2]
  exact .get (.bind (transfers_keepIteration _ (hIterations ▸ hMay)) fun _ _ _ => .pure rfl)

/-- Ending an iteration needs leave for its own cursor only. -/
theorem transfers_dropIteration {name : String}
    (hMay : ∀ old, session.iterations.get? name = some old → may (.cursor old.number)) :
    Transfers may others session 0 (dropIteration name) fun _ => 0 := by
  refine .get ?_
  split
  next old hOld =>
    refine .bind (neutral_modifyIterations may others session) fun _ _ _ =>
      .via (fun _ => 0) (transfers_modifyWorld ?_) fun _ _ _ => .pure rfl
    rw [zero_add]
    exact ForeignSet.steps_dropIterator (hMay old hOld) _
  next => exact .pure rfl

theorem transfers_showOwned (result : Option String) (ref : Ref) :
    Transfers may others session (ofHost {ref}) (showOwned result ref) fun _ => 0 :=
  .bind (transfers_unhold ref) fun _ middle _ => neutral_showAndKeep result ref may others middle

theorem neutral_convert {conversion : Ref → BridgeM Pointer} (value : Host.Literal)
    (hConversion : ∀ ref, Neutral (conversion ref)) : Neutral (convert value conversion) :=
  .bind (neutral_build value) fun ref =>
    .handled (.bind (neutral_bridge (hConversion ref)) fun _ => .get fun _ => .pure)
      fun _ => .get fun _ => .pure

theorem neutral_makePointer (pointer : PointerLiteral) : Neutral (makePointer pointer) := by
  cases pointer with
  | native slot => exact .bind (neutral_content _ slot) fun _ => .pure
  | host slot => exact .bind (neutral_hostOf slot) fun _ => .pure
  | _ => exact .pure

theorem neutral_makeToHost (converter : ToHostLiteral) : Neutral (makeToHost converter) := by
  cases converter with
  | constant value => exact .bind (neutral_build value) fun _ => .pure
  | _ => exact .pure

/-! Slots for native objects and values, and for storage, take over what is put into them. -/

/-- Giving up what a slot has owned so far, as often as it owned it. -/
theorem steps_releaseNatives {rest : Estate} (address count : Nat) (world : World) :
    Steps may ⟨ofNative (count • {.reference address}) + rest, world⟩
      ⟨rest, Nat.repeat (·.releaseNative address) count world⟩ := by
  induction count generalizing rest with
  | zero => simpa only [zero_nsmul, ofNative_zero, zero_add] using .refl
  | succ count ih =>
    rw [succ_nsmul, ofNative_add, add_assoc]
    exact ih.trans (World.steps_releaseNative address _)

/-- A slot takes over the reference that comes with the address. -/
theorem transfers_keepObject (name : String) (address : Nat) :
    Transfers may others session (oneReference address) (keepObject name address) fun _ => 0 := by
  have hSlot : ObjectSlot.holdings ⟨address, 1, Nat.one_pos⟩ = {.reference address} := one_nsmul _
  refine .get (.via (fun _ => ofNative ((session.objects.get? name).elim 0 ObjectSlot.holdings))
    (transfers_reassign rfl ?_ rfl) fun _ middle _ => ?_)
  · exact (holdings_putObject session name _).trans (congrArg (· + _) hSlot)
  · cases session.objects.get? name with
    | some old =>
      refine transfers_modifyWorld ?_
      rw [zero_add]
      exact steps_releaseNatives old.address old.owned _
    | none => exact .pure rfl

theorem transfers_dropped (value : NativeValue) :
    Transfers may others session value.estate (modifyWorld value.drop) fun _ => 0 :=
  transfers_modifyWorld (by simpa only [zero_add] using value.steps_drop session.world)

/-- The same for values. -/
theorem transfers_keepValue (name : Option String) (value : NativeValue) :
    Transfers may others session value.estate (keepValue name value) fun _ => 0 := by
  cases name with
  | some name =>
    refine .get (.via (fun _ => ((session.values.get? name).elim 0 NativeValue.holdings,
        (session.values.get? name).elim 0 NativeValue.claims))
      (transfers_reassign rfl (holdings_putValue session name value) (claims_putValue session name value))
      fun _ middle _ => ?_)
    cases session.values.get? name with
    | some old => exact transfers_dropped old
    | none => exact .pure rfl
  | none => exact transfers_dropped value

theorem transfers_showAndKeepValue (name : Option String) (value : NativeValue) :
    Transfers may others session value.estate (showAndKeepValue name value) fun _ => 0 :=
  .get (.bind (transfers_keepValue name value) fun _ _ _ => .pure rfl)

/-- Dropping a value lets go of what it is made of. -/
theorem neutral_dropValue (name : String) : Neutral (dropValue name) := by
  refine fun may others session => .get ?_
  split
  next value hValue =>
    have hHoldings := holdings_eraseValue session name
    have hClaims := claims_eraseValue session name
    rw [hValue, Option.elim_some] at hHoldings hClaims
    exact .via (fun _ => value.estate)
      (transfers_reassign rfl (hHoldings.trans (zero_add _).symm) (hClaims.trans (zero_add _).symm))
      fun _ _ _ => .bind (transfers_dropped value) fun _ _ _ => .pure rfl
  next => exact .pure rfl

/-- Whether a pointer is what the slot of an argument names; no slot stands for NULL. -/
def Holds (session : Session) (slot : Option String) (object : Pointer) : Prop :=
  match slot with
  | none => object = .null
  | some name => ∃ content, session.objects.get? name = some content ∧
      object = .native content.address

theorem disowned_world (session : Session) (name : String) :
    (session.disowned name).world = session.world := by
  unfold disowned
  split
  · split <;> rfl
  · rfl

/-- Giving a slot up and going on with another world do not depend on each other. -/
theorem disowned_with_world (session : Session) (name : String) (world : World) :
    ({ session with world } : Session).disowned name =
      { session.disowned name with world } := by
  unfold disowned
  dsimp only
  split
  · split <;> rfl
  · rfl

/-- A slot that gives a reference up owns one less. -/
theorem holdings_disowned {name : String} {slot : ObjectSlot}
    (hSlot : session.objects.get? name = some slot) :
    session.holdings = {.reference slot.address} + (session.disowned name).holdings := by
  simp only [disowned, hSlot]
  split
  next hLast =>
    have hErase := holdings_eraseObject session name
    have hOne : slot.holdings = {.reference slot.address} := by
      rw [ObjectSlot.holdings, Nat.le_antisymm hLast slot.hOwned, one_nsmul]
    rw [hSlot, Option.elim_some, hOne] at hErase
    exact hErase.symm
  next hMore =>
    have hPut := holdings_putObject session name
      { slot with owned := slot.owned - 1, hOwned := by omega }
    have hOne : slot.holdings = (slot.owned - 1) • {.reference slot.address} +
        {.reference slot.address} := by
      rw [ObjectSlot.holdings, ← succ_nsmul, Nat.sub_add_cancel slot.hOwned]
    rw [hSlot, Option.elim_some, hOne, add_assoc] at hPut
    exact (add_left_cancel hPut).symm

/-- A slot that takes over a reference owns one more. -/
theorem holdings_owning {name : String} {slot : ObjectSlot}
    (hSlot : session.objects.get? name = some slot) :
    (session.owning name).holdings = {.reference slot.address} + session.holdings := by
  have hPut := holdings_putObject session name
    { slot with owned := slot.owned + 1, hOwned := Nat.succ_pos _ }
  rw [hSlot, Option.elim_some, ObjectSlot.holdings, ObjectSlot.holdings, succ_nsmul,
    add_assoc] at hPut
  simp only [owning, hSlot]
  exact add_left_cancel hPut

theorem owning_world (session : Session) (name : String) :
    (session.owning name).world = session.world := by
  unfold owning
  split <;> rfl

/-- The slots for native objects claim no host objects, whatever they own. -/
theorem claims_disowned (session : Session) (name : String) :
    (session.disowned name).claims = session.claims := by
  unfold disowned
  split
  · split <;> rfl
  · rfl

theorem claims_owning (session : Session) (name : String) :
    (session.owning name).claims = session.claims := by
  unfold owning
  split <;> rfl

/-- What a slot holds is its own reference and all that the others hold. -/
theorem estate_disownedArgument {slot : Option String} {object : Pointer}
    (hHolds : session.Holds slot object) :
    session.estate = object.reference + (slot.elim session session.disowned).estate := by
  cases slot with
  | none =>
    obtain rfl : object = .null := hHolds
    exact (zero_add _).symm
  | some name =>
    obtain ⟨content, hContent, rfl⟩ := hHolds
    exact Prod.ext (holdings_disowned hContent)
      ((claims_disowned session name).symm.trans (zero_add _).symm)

/-- A call that takes its argument over leaves the slot empty. -/
theorem transfers_ownArgument {slot : Option String} {object : Pointer}
    (hHolds : session.Holds slot object) :
    Transfers may others session object.reference (ownArgument slot) fun _ => 0 := by
  cases slot with
  | none =>
    obtain rfl : object = .null := hHolds
    exact transfers_reassign rfl rfl rfl
  | some name =>
    obtain ⟨content, hContent, rfl⟩ := hHolds
    exact transfers_reassign (owning_world session name)
      ((zero_add _).trans (holdings_owning hContent)) (congrArg (0 + ·) (claims_owning session name))

theorem transfers_reserve? (nativeClass : NativeClass) :
    Transfers may others session taken (reserve? nativeClass) fun storage => storageEstate storage + taken := by
  refine .stepsGet ?_
  simp only [ledger_session, estate_world, add_assoc]
  exact (Step.reserve nativeClass rfl).toSteps

theorem transfers_reserve (nativeClass : NativeClass) :
    Transfers may others session 0 (reserve nativeClass) fun address => storageEstate (some address) := by
  refine .bind (transfers_reserve? nativeClass) fun storage _ _ => ?_
  cases storage with
  | some address => exact .pure (add_zero _)
  | none => exact .throw

/-- Storage that is taken out of a slot is handed on. -/
theorem transfers_takeStorage (name : String) (nativeClass : NativeClass) :
    Transfers may others session taken (takeStorage name nativeClass)
      fun storage => storageEstate storage + taken := by
  have hNone : taken = storageEstate none + taken := (zero_add taken).symm
  refine .get ?_
  split
  next address stored hStorage =>
    split
    · have hErase := holdings_eraseStorage session name
      rw [hStorage, Option.elim_some] at hErase
      refine .via (fun _ => storageEstate (some address) + taken) (transfers_reassign rfl ?_ ?_)
        fun _ _ _ => .pure rfl
      · rw [← hErase, add_left_comm, ← add_assoc]
        rfl
      · exact congrArg (· + _) (zero_add taken.2)
    · exact .pure hNone
  next => exact .pure hNone

theorem transfers_chosenStorage (choice : StorageChoice) :
    Transfers may others session taken (chosenStorage choice)
      fun storage => storageEstate storage + taken := by
  cases choice with
  | unavailable => exact .pure (zero_add taken).symm
  | fresh => exact transfers_reserve? .foreignSet
  | slot name => exact transfers_takeStorage name .foreignSet

/-- Storage is put into a slot; what was in the slot before is lost track of. -/
theorem transfers_putStorage (name : String) (address : Nat) (nativeClass : NativeClass) :
    Transfers may others session (storageEstate (some address))
      (modify fun session => { session with storage := session.storage.put name (address, nativeClass) } :
        SessionM Unit) fun _ => 0 := by
  have hReplaced : Transfers may others session (storageEstate (some address))
      (modify fun session => { session with storage := session.storage.put name (address, nativeClass) } :
        SessionM Unit) fun _ => ofNative ((session.storage.get? name).elim 0 storageSlotHoldings) :=
    transfers_reassign rfl (holdings_putStorage session name (address, nativeClass)) rfl
  have hLost (after : Session) : Steps may
      (Holder.ledger (ofNative ((session.storage.get? name).elim 0 storageSlotHoldings) + others) after)
      (Holder.ledger (0 + others) after) := by
    simp only [ledger_session, zero_add, add_assoc]
    cases session.storage.get? name with
    | some old => exact (Step.abandon old.1 rfl).toSteps
    | none => exact (zero_add (others + after.estate)).symm ▸ .refl
  exact Relation.ReflTransGen.trans hReplaced (hLost _)

theorem keeps_of_mem {address : Nat} (hOwned : .reference address ∈ session.holdings) (world : World) :
    (Ledger.account ⟨others + session.estate, world⟩).Keeps address :=
  .inl (Multiset.mem_add.mpr (.inr hOwned))

/-- A native value is made with a reference of its own. -/
theorem transfers_makeValue (literal : NativeLiteral) :
    Transfers may others session 0 (makeValue literal) NativeValue.estate := by
  cases literal with
  | host value =>
    exact .bind (neutral_build value may others session) fun ref _ _ =>
      .bind (transfers_hold ref) fun _ _ _ => .pure rfl
  | set name =>
    refine transfers_content fun slot hSlot => .get ?_
    split
    · refine .via (fun _ => oneReference slot.address) (transfers_modifyWorld ?_) fun _ _ _ => .pure rfl
      rw [zero_add]
      exact (Step.retain slot.address (keeps_of_mem (reference_mem hSlot) _) rfl).toSteps
    · exact .throw
  | slot name =>
    refine transfers_content fun value hValue =>
      .via (fun _ => value.estate) (transfers_modifyWorld ?_) fun _ _ _ => .pure rfl
    rw [zero_add]
    cases value with
    | set address => exact (Step.retain address (keeps_of_mem (value_mem hValue) _) rfl).toSteps
    | host ref => exact World.steps_hold ref session.world
    | _ => exact (zero_add (others + session.estate)).symm ▸ .refl
  | _ => exact .pure rfl

/-- A value that is made for one use is given up after it, whatever comes of the use. -/
theorem transfers_usingValue {literal : NativeLiteral} {action : NativeValue → SessionM α}
    {given : α → Estate}
    (hAction : ∀ value middle,
      Transfers may (value.estate + others) middle 0 (action value) given) :
    Transfers may others session 0 (usingValue literal action) given := by
  refine .bind (transfers_makeValue literal) fun value middle _ => ?_
  refine (hAction value middle).tryFinally fun result after => ?_
  simp only [ledger_session, estate_world, add_assoc]
  exact value.steps_drop after.world

/-- An item is built for a call and given back after it. -/
theorem transfers_withItem {slot : String} {item : NativeLiteral}
    {action : Ref → NativeValue → BridgeM α} {given : α → Estate}
    (hAction : ∀ backing value owners world,
      Transfers may owners world 0 (action backing value) given) :
    Transfers may others session 0 (withItem slot item action) given :=
  transfers_usingValue fun value _ =>
    .bind (neutral_backing slot may _ _) fun ref _ _ => transfers_bridge (hAction ref value _ _)

def valuesEstate (values : List NativeValue) : Estate := (values.map NativeValue.estate).sum

/-- Dropping values settles what they own. -/
theorem steps_dropValues {rest : Estate} (values : List NativeValue) (world : World) :
    Steps may ⟨valuesEstate values + rest, world⟩
      ⟨rest, values.foldl (fun world value => value.drop world) world⟩ := by
  induction values generalizing world with
  | nil => exact (zero_add rest).symm ▸ .refl
  | cons value others ih =>
    rw [valuesEstate, List.map_cons, List.sum_cons, add_assoc]
    exact (value.steps_drop world).trans (ih _)

theorem transfers_dropValues (values : List NativeValue) :
    Transfers may others session (valuesEstate values) (dropValues values) fun _ => 0 :=
  transfers_modifyWorld (by simpa only [zero_add] using steps_dropValues values session.world)

/-- The elements taken from an iterator are handed on together, or given up together. -/
theorem transfers_collectFrom {number : Nat} (hMay : may (.cursor number))
    (values : List NativeValue) (steps : Nat) :
    Transfers may others session (valuesEstate values) (collectFrom number values steps)
      valuesEstate := by
  induction steps generalizing session values with
  | zero =>
    refine .bind (transfers_dropValues values) fun _ _ _ => ?_
    exact .bind (neutral_bridge (BridgeM.neutral_contract _ _) may others _) nofun
  | succ steps ih =>
    refine .bind (Transfers.handledKeeping
      (transfers_bridge (ForeignSet.transfers_nextValue hMay)) fun failure after => ?_)
      fun element middle _ => ?_
    · exact .bind (transfers_dropValues values) fun _ _ _ => .throw
    · cases element with
      | none => exact .pure (add_zero _)
      | some value =>
        have hTaken : valuesEstate values + valueEstate (some value) =
            valuesEstate (values ++ [value]) := by
          simp [valuesEstate, valueEstate]
        rw [hTaken]
        exact ih (values ++ [value])

/-- Iterators are numbered in the order in which they are started. -/
theorem number_of_run_bridge {ref : Ref} {number : Nat} {after : Session}
    (hRun : (bridge (ForeignSet.iterate ref)).run.run session = (.ok number, after)) :
    number = session.world.cursors.size := by
  rw [run_bridge] at hRun
  rcases hIterate : (ForeignSet.iterate ref).run.run session.world with ⟨error | found, world⟩ <;>
    rw [hIterate] at hRun <;> cases hRun
  exact ForeignSet.number_of_run_iterate hIterate

/-- All elements are taken from an iterator of their own. -/
theorem transfers_allElements {ref : Ref}
    (hMay : ∀ number, session.world.cursors.size ≤ number → may (.cursor number)) :
    Transfers may others session 0 (allElements ref) valuesEstate := by
  refine .bind (neutral_bridge (ForeignSet.neutral_iterate ref) may others session)
    fun number middle hRun => ?_
  have hNumber : may (.cursor number) := hMay number (number_of_run_bridge hRun).ge
  have hCollect : Transfers may (0 + others) middle 0 (collectFrom number [] Host.stepLimit)
      valuesEstate := transfers_collectFrom hNumber [] _
  refine hCollect.tryFinally fun _ _ => ?_
  simp only [ledger_session, estate_world, zero_add]
  exact ForeignSet.steps_dropIterator hNumber _

theorem transfers_exported {function : Export.ExportM α} {given : α → Estate}
    (hFunction : Hands may (others + session.estate) session.world taken function given) :
    Transfers may others session taken (exported function) given := by
  unfold Hands at hFunction
  simp only [ledger_world, ← add_assoc] at hFunction
  exact .stepsGet hFunction

theorem neutral_exported {function : Export.ExportM α} (hFunction : Quiet function) :
    Neutral (exported function) :=
  fun may _ session => transfers_exported (hFunction may _ session.world)

/-- A step hands nothing on: its element goes into a slot or is dropped. -/
theorem transfers_stepIteration {iteration : Iteration} (hMay : may (.cursor iteration.number)) :
    Transfers may others session 0 (stepIteration iteration) fun _ => 0 := by
  unfold stepIteration
  split
  · refine .bind (transfers_bridge (ForeignSet.transfers_nextValue hMay)) fun element _ _ => ?_
    cases element with
    | some value => exact .bind (transfers_showAndKeepValue none value) fun _ _ _ => .pure rfl
    | none => exact .pure rfl
  · refine .bind (transfers_bridge (ForeignSet.transfers_next hMay)) fun element _ _ => ?_
    cases element with
    | some ref => exact .bind (neutral_showAndKeep none ref may others _) fun _ _ _ => .pure rfl
    | none => exact .pure rfl
  · have hMoved (number : Nat) (hNumber : some iteration.number = some number) :
        may (.cursor number) := Option.some.inj hNumber ▸ hMay
    refine .bind (transfers_exported (Export.hands_iteratorNext hMoved)) fun outcome _ _ => ?_
    obtain ⟨status, element⟩ := outcome
    cases element with
    | some ref =>
      exact .bind (transfers_unhold ref) fun _ _ _ =>
        .bind (neutral_showAndKeep none ref may others _) fun _ _ _ => .pure rfl
    | none => exact .pure rfl

/-- An iteration is stepped by its name in the same way. -/
theorem transfers_advance {name : String}
    (hMay : ∀ found, session.iterations.get? name = some found → may (.cursor found.number)) :
    Transfers may others session 0 (advance name) fun _ => 0 := by
  refine transfers_content fun iteration hFound =>
    .bind (transfers_stepIteration (hMay iteration hFound)) fun step _ _ => ?_
  cases step with
  | element form => exact .bind (neutral_modifyIterations may others _) fun _ _ _ => .pure rfl
  | finished => exact .pure rfl
  | failed => exact .get (.pure rfl)

/-- Picking an element needs no leave, since it steps through an iterator of its own. -/
theorem neutral_someElement (slot : String) (result : Option String) :
    Neutral (someElement slot result) := by
  refine fun may others session => .bind (neutral_backing slot may others session) fun ref _ _ =>
    .bind (transfers_bridge (ForeignSet.transfers_anyElement ref)) fun element _ _ => ?_
  cases element with
  | none => exact .pure rfl
  | some value =>
    refine .get ?_
    split
    · exact .bind (transfers_keepValue none value) fun _ _ _ => .pure rfl
    · exact .bind (transfers_showAndKeepValue result value) fun _ _ _ => .pure rfl

theorem transfers_installAs (slot : String) (address : Nat) {payload : Payload}
    (hOther : payload.nativeClass ≠ .foreignSet) :
    Transfers may others session (storageEstate (some address)) (installAs slot address payload)
      fun _ => 0 :=
  .via (fun _ => oneReference address)
    (transfers_modifyWorld (Step.install address hOther rfl rfl).toSteps) fun _ _ _ =>
      transfers_keepObject slot address

/-- A second reference comes and goes. -/
theorem transfers_referTo {name : String} {slot : ObjectSlot}
    (hSlot : session.objects.get? name = some slot) (nativeClass : NativeClass)
    (other : Option String) :
    Transfers may others session 0 (referTo slot.address nativeClass other) fun _ => 0 := by
  refine .via (fun _ => oneReference slot.address) (transfers_modifyWorld ?_) fun _ _ _ =>
    .get (.get (.via (fun _ => 0) (transfers_modifyWorld ?_) fun _ _ _ => .get (.pure rfl)))
  · rw [zero_add]
    exact (Step.retain slot.address (keeps_of_mem (reference_mem hSlot) _) rfl).toSteps
  · rw [zero_add]
    exact World.steps_releaseNative _ _

end HeapBridge.Session
