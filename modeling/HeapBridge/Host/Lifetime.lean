import HeapBridge.Host.Evaluation
/-!
The end of host objects. When nothing refers to an object any more, its class is told so once; unless
that makes something refer to it again it is given up, and what it referred to is let go of, one
reference after the other and each before the next.
-/
namespace HeapBridge

open Host (Ref)

def World.unreferenced (world : World) : List Ref :=
  let mark (marks : Array Bool) (ref : Ref) := match ref with
    | .atom _ => marks
    | .object address => marks.setIfInBounds address true
  let marks := world.references.foldl mark (Array.replicate world.host.cells.size false)
  (world.host.addresses.filter fun address => !marks.getD address false).map Ref.object

namespace Host

/-- Tells an object once that it is about to be given up. What its script does wrong is nobody's
concern. -/
def finalize (ops : Ops) (address : Nat) : HostM Unit := do
  let ref := Ref.object address
  let object := (← heap).view ref
  if object.finalized || ((← heap).scripted? ref "__del__").isNone then return ()
  else
    markFinalized address
    match ← attempt (holding [ref] (scripted? ops ref "__del__" [])) with
    | .ok (some answer) => holding [ref] (ops.release [answer])
    | _ => return ()

def isAbandoned (address : Nat) (world : World) : Bool :=
  world.host.isLive (.object address) && !world.isReferenced (.object address)

/-- Gives up an object if nothing refers to it. What it referred to is held. -/
def giveUp (address : Nat) (world : World) : List Ref × World :=
  if isAbandoned address world then
    let (freed, world) := world.reclaim address
    let objects := freed.filter Ref.isObject
    (objects, world.holdAll objects)
  else ([], world)

/-- Lets go of references that are held, in order. An object is told before it is given up. -/
def letGo (ops : Ops) (context : Context) : Nat → List Ref → World → World
  | 0, refs, world => world.unholdAll refs
  | _ + 1, [], world => world
  | steps + 1, .atom value :: rest, world => letGo ops context steps rest (world.unhold (.atom value))
  | steps + 1, .object address :: rest, world =>
    let world := world.unhold (.object address)
    if isAbandoned address world then
      let (freed, world) := giveUp address ((finalize ops address).eval context world).2
      letGo ops context steps (freed ++ rest) world
    else letGo ops context steps rest world

theorem changes_giveUp (address : Nat) (world : World) :
    Changes world (giveUp address world).2 := by
  unfold giveUp
  split
  next h =>
    simp only [isAbandoned, Bool.and_eq_true, Bool.not_eq_true'] at h
    exact .step (Change.giveUp h.1 h.2).toChanges (.hold _)
  next => exact .refl

theorem held_giveUp (address : Nat) (world : World) :
    (giveUp address world).2.held = (giveUp address world).1 ++ world.held := by
  unfold giveUp
  split
  next => simp only [World.holdAll, World.held_reclaim]
  next => rfl

theorem giveUp_within (address : Nat) (world : World) (surroundings : Surroundings) :
    giveUp address (world.within surroundings) =
      ((giveUp address world).1, (giveUp address world).2.within surroundings) := by
  unfold giveUp isAbandoned
  rw [World.isReferenced_within, World.host_within, World.reclaim_within]
  split <;> rfl

/-- Letting go is host code like any other. -/
theorem changes_letGo (ops : Ops) (context : Context) (steps : Nat) (refs : List Ref)
    (world : World) : Changes world (letGo ops context steps refs world) := by
  fun_induction letGo ops context steps refs world with
  | case1 refs world => exact .unholdAll refs world
  | case2 => exact .refl
  | case3 steps value rest world ih => exact (Change.unhold _).toChanges.trans ih
  | case4 steps address rest world middle _ freed after hGiveUp ih =>
    have hFreed := changes_giveUp address ((finalize ops address).eval context middle).2
    rw [hGiveUp] at hFreed
    exact (((Change.unhold _).toChanges.trans ((finalize ops address).changes context middle)).trans
      hFreed).trans ih
  | case5 steps address rest world middle _ ih => exact (Change.unhold _).toChanges.trans ih

/-- Just the references that are let go of are given back. -/
theorem held_letGo (ops : Ops) (context : Context) (steps : Nat) (refs : List Ref) (world : World)
    {rest : List Ref} (hHeld : world.held.Perm (refs ++ rest)) :
    (letGo ops context steps refs world).held.Perm rest := by
  revert hHeld
  fun_induction letGo ops context steps refs world with
  | case1 refs world => exact World.held_unholdAll
  | case2 => exact id
  | case3 steps value others world ih => exact fun hHeld => ih (World.held_unhold hHeld)
  | case4 steps address others world middle _ freed after hGiveUp ih =>
    intro hHeld
    have hMiddle : middle.held.Perm (others ++ rest) := World.held_unhold hHeld
    have hFreed := held_giveUp address ((finalize ops address).eval context middle).2
    rw [hGiveUp] at hFreed
    apply ih
    rw [hFreed, List.append_assoc]
    exact (((finalize ops address).balanced context middle).trans hMiddle).append_left freed
  | case5 steps address others world middle _ ih =>
    exact fun hHeld => ih (World.held_unhold hHeld)

/-- Letting go does not depend on what surrounds the host. -/
theorem letGo_within (ops : Ops) (context : Context) (steps : Nat) (refs : List Ref) (world : World)
    (surroundings : Surroundings) :
    letGo ops context steps refs (world.within surroundings) =
      (letGo ops context steps refs world).within surroundings := by
  fun_induction letGo ops context steps refs world with
  | case1 refs world => exact World.unholdAll_within refs world surroundings
  | case2 => rfl
  | case3 steps value rest world ih => exact ih
  | case4 steps address rest world middle hAbandoned freed after hGiveUp ih =>
    have hAlike : isAbandoned address ((world.within surroundings).unhold (.object address)) :=
      hAbandoned
    rw [letGo, if_pos hAlike, show (world.within surroundings).unhold (.object address) =
      middle.within surroundings from rfl, (finalize ops address).blind, giveUp_within, hGiveUp]
    exact ih
  | case5 steps address rest world middle hKept ih =>
    have hAlike : ¬ isAbandoned address ((world.within surroundings).unhold (.object address)) :=
      hKept
    rw [letGo, if_neg hAlike]
    exact ih

def release (ops : Ops) (refs : List Ref) : HostM Unit where
  eval context world :=
    let objects := refs.filter Ref.isObject
    (.ok (), letGo ops context stepLimit objects (world.holdAll objects))
  changes context _ := (Change.hold _).toChanges.trans (changes_letGo ops context _ _ _)
  balanced context _ := held_letGo ops context _ _ _ (.refl _)
  blind context world surroundings :=
    congrArg (Prod.mk _) (letGo_within ops context stepLimit _ (world.holdAll _) surroundings)

def sweep : Nat → World → World
  | 0, world => world
  | steps + 1, world =>
    match world.unreferenced with
    | .object address :: _ =>
      if isAbandoned address world then sweep steps (world.reclaim address).2 else world
    | _ => world

theorem changes_sweep (steps : Nat) (world : World) : Changes world (sweep steps world) := by
  fun_induction sweep steps world with
  | case2 steps world address others _ hAbandoned ih =>
    simp only [isAbandoned, Bool.and_eq_true, Bool.not_eq_true'] at hAbandoned
    exact (Change.giveUp hAbandoned.1 hAbandoned.2).toChanges.trans ih
  | _ => exact .refl

theorem held_sweep (steps : Nat) (world : World) : (sweep steps world).held = world.held := by
  fun_induction sweep steps world with
  | case2 steps world address others _ _ ih => exact ih.trans (World.held_reclaim address world)
  | _ => rfl

/-- Sweeping does not either. -/
theorem sweep_within (steps : Nat) (world : World) (surroundings : Surroundings) :
    sweep steps (world.within surroundings) = (sweep steps world).within surroundings := by
  induction steps generalizing world with
  | zero => rfl
  | succ steps ih =>
    have hSame : (world.within surroundings).unreferenced = world.unreferenced := rfl
    unfold sweep
    rw [hSame]
    split
    next address others _ =>
      have hAlike : isAbandoned address (world.within surroundings) = isAbandoned address world := rfl
      rw [hAlike, World.reclaim_within]
      split
      next => exact ih (world.reclaim address).2
      next => rfl
    next => rfl

/-- Gives up all objects that nothing refers to. What is left when all have been told goes unasked. -/
def settle (ops : Ops) : HostM Unit := do
  release ops (← ask World.unreferenced)
  { eval := fun _ world => (.ok (), sweep world.host.cells.size world)
    changes := fun _ world => changes_sweep _ world
    balanced := fun _ world => held_sweep _ world ▸ .refl _
    blind := fun _ world surroundings => congrArg (Prod.mk _) (sweep_within _ world surroundings) }

end Host

end HeapBridge
