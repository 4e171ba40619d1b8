import HeapBridge.Proofs.Ownership.Conservation
/-!
What lasts. A property that every new host object has, and that an object keeps whatever becomes of it,
is one of all objects at any time. The main statement is that moves keep such a property if the handles
that they make have it, and so does every command.
-/
namespace HeapBridge

open Host (Object)

def Host.Heap.All (property : Object → Prop) (heap : Heap) : Prop :=
  ∀ address object, heap.object? address = some object → property object

/-- A property of host objects that host code keeps to. -/
structure Host.Lasting (property : Object → Prop) : Prop where
  /-- What host code makes has it. -/
  made : ∀ object, object.body.isHandle = false → object.body.isUnique = false → property object
  /-- Objects have it for life. -/
  kept : ∀ old new, property old → old.Becomes new → property new

variable {property : Object → Prop}

namespace Host.Heap

theorem all_empty : All property {} := by
  intro address object hObject
  cases hObject

/-- A new object joins the others on the terms that they are there on. -/
theorem All.allocate {heap : Heap} {object : Object} (hAll : heap.All property)
    (hObject : property object) : (heap.allocate object).2.All property := by
  intro address found hFound
  rcases Nat.lt_or_ge address heap.cells.size with hOld | hNew
  · exact hAll address found ((object?_allocate_of_lt hOld).symm.trans hFound)
  · have hIn := lt_size_of_object? hFound
    obtain rfl : address = heap.cells.size :=
      Nat.le_antisymm (Nat.lt_succ_iff.mp (by simpa [Heap.allocate] using hIn)) hNew
    rw [object?_allocate_self] at hFound
    exact Option.some.inj hFound ▸ hObject

theorem All.free {heap : Heap} (hAll : heap.All property) (address : Nat) :
    (heap.free address).All property := by
  intro other object hObject
  rcases eq_or_ne address other with rfl | hOther
  · rw [object?_free_self] at hObject
    cases hObject
  · exact hAll other object ((object?_free_of_ne hOther).symm.trans hObject)

/-- One object can be replaced on the same terms. -/
theorem All.put {heap : Heap} {address : Nat} {old new : Object} (hAll : heap.All property)
    (hOld : heap.object? address = some old) (hNew : property new) :
    (heap.put address new).All property := by
  intro other object hObject
  rw [object?_put hOld] at hObject
  split at hObject
  · exact Option.some.inj hObject ▸ hNew
  · exact hAll other object hObject

end Host.Heap

/-- Changes to the host keep a lasting property of its objects, one by one. -/
theorem Host.Change.all {before after : World} (change : Host.Change before after)
    (hLasting : Host.Lasting property) (hAll : before.host.All property) :
    after.host.All property := by
  cases change with
  | hold refs => exact hAll
  | unhold ref => exact hAll
  | allocate object hBody hUnique => exact hAll.allocate (hLasting.made object hBody hUnique)
  | put new hOld hNew => exact hAll.put hOld (hLasting.kept _ new (hAll _ _ hOld) hNew)
  | define script => exact hAll
  | giveUp hLive hFree =>
    rw [World.reclaim_host]
    exact hAll.free _

theorem Host.Changes.all {before after : World} (changes : Host.Changes before after)
    (hLasting : Host.Lasting property) (hAll : before.host.All property) :
    after.host.All property := by
  induction changes with
  | refl => exact hAll
  | step _ last ih => exact last.all hLasting ih

variable {may : Deed → Prop} {start finish : Account}

/-- A move keeps a property that lasts if the handle that it may make has it. -/
theorem Move.all (move : Move may start finish) (hLasting : Host.Lasting property)
    (hHandles : ∀ handle, may (.handle handle) → property { body := .handle handle })
    (hAll : start.world.host.All property) : finish.world.host.All property := by
  cases move with
  | host change => exact change.all hLasting hAll
  | handle handle hMay _ => exact hAll.allocate (hHandles handle hMay)
  | drop address _ =>
    dsimp only
    rw [World.dropNative_host]
    exact hAll
  | _ => exact hAll

theorem Moves.all (moves : Moves may start finish) (hLasting : Host.Lasting property)
    (hHandles : ∀ handle, may (.handle handle) → property { body := .handle handle })
    (hAll : start.world.host.All property) : finish.world.host.All property := by
  induction moves with
  | refl => exact hAll
  | step _ last ih => exact last.all hLasting hHandles ih

namespace Session

theorem host_forget (command : Command) (world : World) :
    (command.forget world).host = world.host := by
  unfold Command.forget
  split <;> rfl

/-- Commands keep it if it holds of the handles that they may make. -/
theorem all_perform {command : Command} {session : Session} (hLasting : Host.Lasting property)
    (hHandles : ∀ handle, command.May session (.handle handle) → property { body := .handle handle })
    (hAll : session.world.host.All property) :
    (perform command session).2.world.host.All property := by
  obtain ⟨start, finish, hStart, hFinish, hMoves⟩ := command.exists_moves session
  rw [← host_forget command, ← hStart] at hAll
  rw [perform_snd]
  refine (World.changes_settle _).all hLasting ?_
  rw [← hFinish]
  exact hMoves.all hLasting hHandles hAll

/-- A property that lasts, and that all handles have, is one of all objects after any commands. -/
theorem all_performAll (hLasting : Host.Lasting property)
    (hHandles : ∀ handle, property { body := .handle handle }) (commands : List Command)
    {session : Session} (hAll : session.world.host.All property) :
    (performAll commands session).2.world.host.All property := by
  induction commands generalizing session with
  | nil => exact hAll
  | cons command rest ih => exact ih (all_perform hLasting (fun handle _ => hHandles handle) hAll)

end Session

end HeapBridge
