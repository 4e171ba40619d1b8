import HeapBridge.Proofs.Ownership.Holdings
/-!
Moves. A move is one thing that the bridge does to the world, together with what becomes of the
holdings outside; whatever a whole session does is made of moves. The main statement is that moves keep
the books: the native heap stays owned by what is held outside together with the live handles.
-/
namespace HeapBridge

open Native (NativeClass Payload)

/-- What is owned from outside the heaps, and the world in which it is owned. -/
structure Account where
  holdings : Multiset Holding
  world : World

/-- Whether a native object is there to be retained: a reference to it is owned, or it is found. -/
def Account.Keeps (account : Account) (address : Nat) : Prop :=
  .reference address ∈ account.holdings ∨ (account.world.native.object? address).isSome = true

/-- What the bridge does on demand only. -/
inductive Deed where
  /-- A handle is made. -/
  | handle (handle : Handle)
  /-- A wrapper is added to the registry. -/
  | registration (wrapper : PointerWrapper)
  /-- The outcome of installing the built-in wrappers is noted. -/
  | builtins
  /-- The registry is poisoned. -/
  | poison
  /-- An iterator is moved on or given up. -/
  | cursor (number : Nat)

/-- The calls that a handle makes for one request: one to its discipline, if it has one. -/
def Handle.calls (handle : Handle) (request : HandleRequest) : List HandleCall :=
  handle.ownership.toList.map fun discipline => { discipline, request, pointer := handle.pointer }

/-- One thing that the bridge does. What is owned beside it does not matter to it. -/
inductive Move (may : Deed → Prop) : Account → Account → Prop where
  | host {holdings : Multiset Holding} {before after : World} (change : Host.Change before after) :
      Move may ⟨holdings, before⟩ ⟨holdings, after⟩
  | reserve {holdings rest : Multiset Holding} {world : World} (nativeClass : NativeClass)
      (hHoldings : holdings = {.storage world.native.cells.size} + rest) :
      Move may ⟨rest, world⟩
        ⟨holdings, { world with native := (world.native.reserve nativeClass).2 }⟩
  | discard {holdings rest : Multiset Holding} {world : World} (address : Nat)
      (hHoldings : holdings = {.storage address} + rest) :
      Move may ⟨holdings, world⟩ ⟨rest, { world with native := world.native.discard address }⟩
  /-- Storage is lost track of, and never used. -/
  | abandon {holdings rest : Multiset Holding} {world : World} (address : Nat)
      (hHoldings : holdings = {.storage address} + rest) :
      Move may ⟨holdings, world⟩ ⟨rest, world⟩
  | install {before after rest : Multiset Holding} {world : World} (address : Nat)
      (payload : Payload) (hBefore : before = {.storage address} + rest)
      (hAfter : after = {.reference address} + rest) :
      Move may ⟨before, world⟩
        ⟨after, { world with native := world.native.install address payload }⟩
  | retain {holdings rest : Multiset Holding} {world : World} (address : Nat)
      (hKept : Account.Keeps ⟨rest, world⟩ address)
      (hHoldings : holdings = {.reference address} + rest) :
      Move may ⟨rest, world⟩ ⟨holdings, world.retainNative address⟩
  | drop {holdings rest : Multiset Holding} {world : World} (address : Nat)
      (hHoldings : holdings = {.reference address} + rest) :
      Move may ⟨holdings, world⟩ ⟨rest, (world.dropNative address).2⟩
  /-- A handle is made, for which its discipline was called if it has one. -/
  | handle {holdings rest : Multiset Holding} {world : World} (handle : Handle)
      (hMay : may (.handle handle)) (hHoldings : holdings = handle.holdings + rest) :
      Move may ⟨holdings, world⟩
        ⟨rest, { world with
          host := (world.host.allocate { body := .handle handle }).2
          calls := world.calls ++ handle.calls .retain }⟩
  | register {holdings : Multiset Holding} {world : World} {registry : Registry}
      (wrapper : PointerWrapper) (hMay : may (.registration wrapper))
      (hInsert : world.registry.insert wrapper = .ok registry) :
      Move may ⟨holdings, world⟩ ⟨holdings, { world with registry }⟩
  | builtins {holdings : Multiset Holding} {world : World} (hMay : may .builtins)
      (outcome : Option (Except BridgeError Unit)) :
      Move may ⟨holdings, world⟩
        ⟨holdings, { world with registry := { world.registry with builtins := outcome } }⟩
  | poison {holdings : Multiset Holding} {world : World} (hMay : may .poison) :
      Move may ⟨holdings, world⟩
        ⟨holdings, { world with registry := { world.registry with poisoned := true } }⟩
  /-- Something is noted that tells of no end of a proxy. -/
  | note {holdings : Multiset Holding} {world : World} (events : List Event)
      (hEvents : .setReleased ∉ events) (lastErrors returned : List (Thread × String)) :
      Move may ⟨holdings, world⟩
        ⟨holdings, { world with log := world.log ++ events, lastErrors, returned }⟩
  /-- The allocator goes on, whatever it has answered. -/
  | refusals {holdings : Multiset Holding} {world : World} (refusals : List Bool) :
      Move may ⟨holdings, world⟩ ⟨holdings, { world with refusals }⟩
  | startCursor {holdings : Multiset Holding} {world : World} (cursor : Cursor) :
      Move may ⟨holdings, world⟩ ⟨holdings, (world.startCursor cursor).2⟩
  | moveCursor {holdings : Multiset Holding} {world : World} (number : Nat) (cursor : Cursor)
      (hMay : may (.cursor number)) :
      Move may ⟨holdings, world⟩ ⟨holdings, world.moveCursor number cursor⟩

inductive Moves (may : Deed → Prop) (start : Account) : Account → Prop where
  | refl : Moves may start start
  | step {middle finish : Account} (prior : Moves may start middle)
      (last : Move may middle finish) : Moves may start finish

variable {may : Deed → Prop}

theorem Move.toMoves {start finish : Account} (move : Move may start finish) :
    Moves may start finish :=
  .step .refl move

theorem Moves.trans {start middle finish : Account} (first : Moves may start middle)
    (second : Moves may middle finish) : Moves may start finish := by
  induction second with
  | refl => exact first
  | step _ last ih => exact .step ih last

theorem Moves.host {before after : World} (changes : Host.Changes before after)
    (holdings : Multiset Holding) : Moves may ⟨holdings, before⟩ ⟨holdings, after⟩ := by
  induction changes with
  | refl => exact .refl
  | step _ last ih => exact .step ih (.host last)

/-- What else is owned does not matter to a move. -/
theorem Move.beside {start finish : Account} (move : Move may start finish)
    (extra : Multiset Holding) : Move may ⟨extra + start.holdings, start.world⟩
      ⟨extra + finish.holdings, finish.world⟩ := by
  cases move with
  | host change => exact .host change
  | reserve nativeClass hHoldings => exact .reserve nativeClass (by rw [hHoldings, add_left_comm])
  | discard address hHoldings => exact .discard address (by rw [hHoldings, add_left_comm])
  | abandon address hHoldings => exact .abandon address (by rw [hHoldings, add_left_comm])
  | install address payload hBefore hAfter =>
    exact .install address payload (by rw [hBefore, add_left_comm]) (by rw [hAfter, add_left_comm])
  | retain address hKept hHoldings =>
    exact .retain address (hKept.imp_left fun hOwned => Multiset.mem_add.mpr (.inr hOwned))
      (by rw [hHoldings, add_left_comm])
  | drop address hHoldings => exact .drop address (by rw [hHoldings, add_left_comm])
  | handle handle hMay hHoldings => exact .handle handle hMay (by rw [hHoldings, add_left_comm])
  | register wrapper hMay hInsert => exact .register wrapper hMay hInsert
  | builtins hMay outcome => exact .builtins hMay outcome
  | poison hMay => exact .poison hMay
  | note events hEvents lastErrors returned => exact .note events hEvents lastErrors returned
  | refusals refusals => exact .refusals refusals
  | startCursor cursor => exact .startCursor cursor
  | moveCursor number cursor hMay => exact .moveCursor number cursor hMay

theorem Moves.beside {start finish : Account} (moves : Moves may start finish)
    (extra : Multiset Holding) : Moves may ⟨extra + start.holdings, start.world⟩
      ⟨extra + finish.holdings, finish.world⟩ := by
  induction moves with
  | refl => exact .refl
  | step _ last ih => exact .step ih (last.beside extra)

namespace Account

/-- The native heap of an account is owned from outside and by handles. -/
def Balanced (account : Account) : Prop :=
  account.world.native.OwnedBy (account.holdings + account.world.host.holdings)

/-- The number of references to a native object that are owned from outside and by handles. -/
def owners (account : Account) (address : Nat) : Nat :=
  (account.holdings + account.world.host.holdings).count (.reference address)

variable {account : Account} {address : Nat}

theorem Balanced.retainCount_eq (hBalanced : account.Balanced) (address : Nat) :
    account.world.native.retainCount address = account.owners address :=
  hBalanced.counted address

/-- Nobody owns an object that is not there. -/
theorem Balanced.owners_eq_zero (hBalanced : account.Balanced)
    (hNone : account.world.native.object? address = none) : account.owners address = 0 := by
  rw [← hBalanced.retainCount_eq, Native.Heap.retainCount, hNone]
  rfl

/-- An object that is kept is there. -/
theorem Balanced.exists_object_of_keeps (hBalanced : account.Balanced)
    (hKept : account.Keeps address) :
    ∃ object, account.world.native.object? address = some object := by
  rcases hKept with hOwned | hFound
  · exact Native.Heap.OwnedBy.exists_object hBalanced address (Multiset.mem_add.mpr (.inl hOwned))
  · exact Option.isSome_iff_exists.mp hFound

/-- An object that is there is owned. -/
theorem Balanced.owners_pos {object : Native.Object} (hBalanced : account.Balanced)
    (hObject : account.world.native.object? address = some object) :
    0 < account.owners address := by
  rw [← hBalanced.retainCount_eq, Native.Heap.retainCount_of_object? hObject]
  exact hBalanced.alive address object hObject

end Account

namespace World

@[simp] theorem destroy_host (payload : Payload) (world : World) :
    (world.destroy payload).2.host = world.host := by
  cases payload <;> rfl

@[simp] theorem destroy_native (payload : Payload) (world : World) :
    (world.destroy payload).2.native = world.native := by
  cases payload <;> rfl

@[simp] theorem dropNative_host (address : Nat) (world : World) :
    (world.dropNative address).2.host = world.host := by
  unfold dropNative
  dsimp only
  split <;> simp

@[simp] theorem dropNative_native (address : Nat) (world : World) :
    (world.dropNative address).2.native = (world.native.release address).2 := by
  unfold dropNative
  dsimp only
  split <;> simp

@[simp] theorem dropHandle_host (discipline : Discipline) (pointer : Pointer) (world : World) :
    (world.dropHandle discipline pointer).2.host = world.host := by
  cases discipline <;> cases pointer <;> simp [dropHandle]

theorem reclaim_host (address : Nat) (world : World) :
    (world.reclaim address).2.host = world.host.free address := by
  unfold reclaim
  dsimp only
  split <;> simp [emit, noteCall]

/-- What a discipline keeps of a released handle is what the handle owned. -/
theorem ownedBy_dropHandle {world : World} {owners : Multiset Holding} {discipline : Discipline}
    (handle : Handle) (hOwnership : handle.ownership = some discipline)
    (hOwned : world.native.OwnedBy (handle.holdings + owners)) :
    (world.dropHandle discipline handle.pointer).2.native.OwnedBy owners := by
  rw [Handle.holdings, hOwnership] at hOwned
  cases discipline <;> cases hPointer : handle.pointer <;> rw [hPointer] at hOwned <;>
    simp only [zero_add] at hOwned <;>
    simp only [dropHandle, dropNative_native] <;>
    first | exact hOwned | exact hOwned.release

/-- The reclaiming of an object gives back what the object owned. -/
theorem ownedBy_reclaim {world : World} {owners : Multiset Holding} {address : Nat}
    {object : Host.Object} (hObject : world.host.object? address = some object)
    (hOwned : world.native.OwnedBy (object.holdings + owners)) :
    (world.reclaim address).2.native.OwnedBy owners := by
  have hView : world.host.view (.object address) = object := by
    simp [Host.Heap.view, hObject]
  unfold reclaim
  rw [hView]
  dsimp only
  split
  next typeId typeName pointer discipline hBody =>
    refine ownedBy_dropHandle ⟨typeId, typeName, pointer, some discipline⟩ rfl ?_
    simpa only [emit, noteCall, Host.Object.holdings, hBody] using hOwned
  next hBody =>
    suffices hNone : object.holdings = 0 by simpa only [hNone, zero_add] using hOwned
    unfold Host.Object.holdings
    split
    next handle hHandle =>
      cases hOwnership : handle.ownership with
      | none => simp [Handle.holdings, hOwnership]
      | some discipline =>
        obtain ⟨typeId, typeName, pointer, ownership⟩ := handle
        exact (hBody typeId typeName pointer discipline (by rw [hHandle, ← hOwnership])).elim
    next => rfl

end World

/-- Host code keeps the books: what a handle owned is given back when the handle is reclaimed. -/
theorem Host.Change.balanced {before after : World} (change : Host.Change before after)
    {holdings : Multiset Holding} (hBalanced : Account.Balanced ⟨holdings, before⟩) :
    Account.Balanced ⟨holdings, after⟩ := by
  cases change with
  | hold refs => exact hBalanced
  | unhold ref => exact hBalanced
  | allocate object hBody _ =>
    simpa only [Account.Balanced, Host.Heap.holdings_allocate,
      Host.Object.holdings_of_isHandle_eq_false hBody, zero_add] using hBalanced
  | put new hOld hNew =>
    simpa only [Account.Balanced, Host.Heap.holdings_put hOld hNew.holdings_eq] using hBalanced
  | define script => exact hBalanced
  | giveUp hLive _ =>
    obtain ⟨object, hObject⟩ := Option.isSome_iff_exists.mp hLive
    rw [Account.Balanced, Host.Heap.holdings_free hObject, add_left_comm] at hBalanced
    simpa only [Account.Balanced, World.reclaim_host] using
      World.ownedBy_reclaim hObject hBalanced

/-- A move keeps the books. -/
theorem Move.balanced {may : Deed → Prop} {start finish : Account} (move : Move may start finish)
    (hBalanced : start.Balanced) : finish.Balanced := by
  unfold Account.Balanced at hBalanced ⊢
  cases move with
  | host change => exact change.balanced hBalanced
  | reserve nativeClass hHoldings =>
    rw [hHoldings, add_assoc]
    exact Native.Heap.OwnedBy.reserve hBalanced nativeClass
  | discard address hHoldings =>
    rw [hHoldings, add_assoc] at hBalanced
    exact hBalanced.discard
  | abandon address hHoldings =>
    rw [hHoldings, add_assoc] at hBalanced
    exact hBalanced.abandon
  | install address payload hBefore hAfter =>
    rw [hBefore, add_assoc] at hBalanced
    rw [hAfter, add_assoc]
    exact hBalanced.install payload
  | retain address hKept hHoldings =>
    obtain ⟨object, hObject⟩ := Account.Balanced.exists_object_of_keeps hBalanced hKept
    rw [hHoldings, add_assoc]
    exact Native.Heap.OwnedBy.retain hBalanced
      (Native.Heap.OwnedBy.reference_mem hBalanced hObject)
  | drop address hHoldings =>
    rw [hHoldings, add_assoc] at hBalanced
    simpa only [World.dropNative_host, World.dropNative_native] using hBalanced.release
  | handle handle _ hHoldings =>
    rw [hHoldings] at hBalanced
    simpa only [Host.Heap.holdings_allocate, Host.Object.holdings, add_assoc, add_left_comm]
      using hBalanced
  | register wrapper _ _ => exact hBalanced
  | builtins _ outcome => exact hBalanced
  | poison _ => exact hBalanced
  | note events _ lastErrors returned => exact hBalanced
  | refusals refusals => exact hBalanced
  | startCursor cursor => exact hBalanced
  | moveCursor number cursor _ => exact hBalanced

/-- Moves keep the books. -/
theorem Moves.balanced {may : Deed → Prop} {start finish : Account}
    (moves : Moves may start finish) (hBalanced : start.Balanced) : finish.Balanced := by
  induction moves with
  | refl => exact hBalanced
  | step _ last ih => exact last.balanced ih

end HeapBridge
