import HeapBridge.World
/-!
What host code can do to the world. It refers to objects and lets go of them, makes objects that are not
handles and not one of a kind, changes those that can change, defines classes, and gives up an object that nothing refers to.
Only the last reaches the native heap and the record: it releases what a handle owns.
-/
namespace HeapBridge.Host

/-- One change that host code makes. -/
inductive Change (world : World) : World → Prop where
  | hold (refs : List Ref) : Change world (world.holdAll refs)
  | unhold (ref : Ref) : Change world (world.unhold ref)
  | allocate (object : Object) (hBody : object.body.isHandle = false)
      (hUnique : object.body.isUnique = false) :
      Change world { world with host := (world.host.allocate object).2 }
  | put {address : Nat} {old : Object} (new : Object)
      (hOld : world.host.object? address = some old) (hNew : old.Becomes new) :
      Change world { world with host := world.host.put address new }
  | define (script : Script) :
      Change world { world with host := (world.host.addScript script).2 }
  | giveUp {address : Nat} (hLive : world.host.isLive (.object address) = true)
      (hFree : world.isReferenced (.object address) = false) :
      Change world (world.reclaim address).2

inductive Changes (start : World) : World → Prop where
  | refl : Changes start start
  | step {middle finish : World} (prior : Changes start middle) (last : Change middle finish) :
      Changes start finish

theorem Change.toChanges {start finish : World} (change : Change start finish) :
    Changes start finish :=
  .step .refl change

theorem Changes.trans {start middle finish : World} (first : Changes start middle)
    (second : Changes middle finish) : Changes start finish := by
  induction second with
  | refl => exact first
  | step _ last ih => exact .step ih last

/-- Host code does not reach the iterators under way and the registry. -/
theorem Change.cursors_registry {start finish : World} (change : Change start finish) :
    finish.cursors = start.cursors ∧ finish.registry = start.registry := by
  cases change with
  | giveUp => exact World.cursors_registry_reclaim ..
  | _ => exact ⟨rfl, rfl⟩

theorem Changes.cursors_registry {start finish : World} (changes : Changes start finish) :
    finish.cursors = start.cursors ∧ finish.registry = start.registry := by
  induction changes with
  | refl => exact ⟨rfl, rfl⟩
  | step _ last ih =>
    exact ⟨last.cursors_registry.1.trans ih.1, last.cursors_registry.2.trans ih.2⟩

theorem Changes.unholdAll (refs : List Ref) (world : World) :
    Changes world (world.unholdAll refs) := by
  induction refs generalizing world with
  | nil => exact .refl
  | cons ref rest ih => exact (Change.unhold ref).toChanges.trans (ih (world.unhold ref))

theorem Changes.make {body : Body} (hBody : body.isHandle = false) (world : World) :
    Changes world { world with host := (world.host.make body).2 } := by
  unfold Heap.make
  split
  next => exact .refl
  next hAtom => exact (Change.allocate { body } hBody (Heap.isUnique_of_atom? hAtom)).toChanges

/-- What an object carries is put in place like anything else of it; who has it does not change. -/
theorem Changes.setBody (ref : Ref) (body : Body) (world : World) :
    Changes world { world with host := world.host.setBody ref body } := by
  cases ref with
  | atom value => exact .refl
  | object address =>
    unfold Heap.setBody
    dsimp only
    split
    next object hObject =>
      split
      next hBecome =>
        exact (Change.put { object with body } hObject ⟨rfl, .inr hBecome⟩).toChanges
      next => exact .refl
    next => exact .refl

/-- Attributes are put in place the same way. -/
theorem Changes.setAttributes (ref : Ref) (attributes : List (String × Ref)) (world : World) :
    Changes world { world with host := world.host.setAttributes ref attributes } := by
  cases ref with
  | atom value => exact .refl
  | object address =>
    unfold Heap.setAttributes
    dsimp only
    split
    next object hObject =>
      exact (Change.put { object with attributes } hObject ⟨rfl, .inl rfl⟩).toChanges
    next => exact .refl

theorem Changes.markFinalized (address : Nat) (world : World) :
    Changes world { world with host := world.host.markFinalized address } := by
  unfold Heap.markFinalized
  split
  next object hObject =>
    exact (Change.put { object with finalized := true } hObject ⟨rfl, .inl rfl⟩).toChanges
  next => exact .refl

end HeapBridge.Host
