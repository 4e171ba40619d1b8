import HeapBridge.Proofs.Failures.Searches
/-!
Operations on sets that fail. Whether a set is asked for a value, or to add it or to take it out, or to find an
equal element or any, or to copy itself: what fails restores the world as long as the value is quiet.
-/
namespace HeapBridge

open Host (Body Context Fault Heap HostM Object Ref SetTable)
open BridgeM (Leaves)

variable {base world before after later : World} {set key : Ref} {table : SetTable} {value : NativeValue}
  {context : Context} {α : Type} {free : Prop} {method : String} {operation : Operation}

theorem Host.Fault.TellsQuietly.extends {fault : Fault} (hTells : fault.TellsQuietly base)
    (hExtends : base.Extends after) : fault.TellsQuietly after :=
  fun later hLater => hTells later ⟨hExtends.trans hLater.more, hLater.whole⟩

theorem Host.Spared.extends {outcome : Except Fault α × World} (hSpared : Spared base before free outcome)
    (hExtends : base.Extends after) : Spared after before free outcome := by
  obtain ⟨fault | value, last⟩ := outcome
  · exact ⟨hSpared.1, hSpared.2.extends hExtends⟩
  · exact hSpared

/-- A value that is quiet is so wherever there is but more. -/
theorem NativeValue.IsQuiet.extends (hQuiet : value.IsQuiet base set) (hOwned : value.IsOwned base)
    (hWhole : base.IsWhole) (hLive : base.host.isLive set = true) (hExtends : base.Extends after) :
    value.IsQuiet after set := by
  have hAppears {later : World} {key : Ref} (hAppears : value.Appears after later key) :
      value.Appears base later key := by
    cases hAppears with
    | itself hBody =>
      rw [hOwned.crossed_eq hExtends hBody]
      exact .itself hBody
    | made hBody hThere hView => exact .made hBody hThere hView
    | frozen hBody hSet hThere hView =>
      rw [hOwned.crossed_eq hExtends hBody, hExtends.body_eq (hWhole _ (hOwned.isReferenced hBody))] at hSet
      exact .frozen hBody hSet hThere hView
  have hMore {later : World} (hLater : after.Enlarges later) : base.Enlarges later :=
    ⟨hExtends.trans hLater.more, hLater.whole⟩
  constructor
  · intro later key hLater hKey context hNesting
    exact (hQuiet.hash later key (hMore hLater) (hAppears hKey) context hNesting).extends hExtends
  · intro later key hLater hKey context hNesting table hTable ref hRef
    rw [hExtends.body_eq hLive] at hTable
    have hEqual := hQuiet.equal later key (hMore hLater) (hAppears hKey) context hNesting table hTable ref hRef
    exact hEqual.extends hExtends

/-- What is assumed of a world and a set in it: nothing refers to what is gone, something refers to the set, and its
class leaves to sets what is asked of it. -/
structure World.Offers (world : World) (set : Ref) : Prop where
  whole : world.IsWhole
  mentions : world.Mentions set
  behaves : world.host.BehavesAsSet set

namespace World.Offers

theorem live (hOffers : world.Offers set) : world.host.isLive set = true := by
  obtain ⟨table, hTable⟩ := hOffers.behaves.elements
  exact Heap.isLive_of_elements hTable

theorem isPlain (hOffers : world.Offers set) : world.IsPlain set :=
  ⟨hOffers.behaves.unscripted _ (by simp), hOffers.behaves.unscripted _ (by simp)⟩

theorem extended (hOffers : world.Offers set) (hMore : world.Enlarges after) : after.Offers set where
  whole := hMore.whole
  mentions := hMore.more.mentions set hOffers.mentions
  behaves := hOffers.behaves.congr hMore.more.scripts (hMore.more.stays set hOffers.live)

end World.Offers

/-- What a value crosses as is there, and nothing refers to what is gone. -/
theorem NativeValue.IsOwned.crossed (hOwned : value.IsOwned world) (hWhole : world.IsWhole) :
    (value.crossed world).2.host.isLive (value.crossed world).1 = true ∧ (value.crossed world).2.IsWhole := by
  rcases hOwned.crossed_cases with ⟨hWorld, hReferenced⟩ | ⟨body, hRefs, _, hCrossed⟩
  · rw [hWorld]
    refine ⟨?_, hWhole⟩
    cases hRef : (value.crossed world).1 with
    | atom value => rfl
    | object address => exact hWhole _ (hReferenced _ (List.mem_singleton.mpr hRef.symm) rfl)
  · rw [hCrossed]
    refine ⟨Option.isSome_iff_exists.mpr ⟨_, Heap.object?_allocate_self world.host { body }⟩, hWhole.allocate ?_⟩
    rw [hRefs]
    exact List.forall_mem_nil _

namespace ForeignSet

variable (hOffers : world.Offers set)

include hOffers

/-- A set faces what a value crosses as. -/
theorem facing_crossed (hOwned : value.IsOwned world) (hQuiet : value.IsQuiet world set)
    (hTable : (world.host.body set).elements? = some table) :
    value.Facing world ((value.crossed world).2.holdAll [(value.crossed world).1]) set table
      (value.crossed world).1 := by
  obtain ⟨hThere, hCrossed⟩ := hOwned.crossed hOffers.whole
  refine ⟨⟨(value.extends_crossed world).trans (World.extends_holdAll _ _), hCrossed.holdAll fun ref hRef => ?_⟩,
    hOffers.whole, hOffers.behaves, hTable, hOwned, hQuiet, ?_⟩
  · rw [List.mem_singleton.mp hRef]
    exact hThere
  · cases hBody : value.body? with
    | none => exact .itself hBody
    | some body =>
      refine .made hBody hThere ?_
      rw [value.crossed_of_body? hBody]
      exact Heap.view_make world.host body

/-- A set is asked for a value. -/
theorem spares_contains (hOwned : value.IsOwned world) (hQuiet : value.IsQuiet world set) :
    (contains set value).Spares (fun _ => False) world := by
  obtain ⟨table, hTable⟩ := hOffers.behaves.elements
  have hFacing := facing_crossed hOffers hOwned hQuiet hTable
  apply BridgeM.Spares.crossing hOffers.whole hOwned
  exact .host hFacing.more (hFacing.spares_contains (Nat.zero_le 1))

/-- A value is added or taken out. -/
theorem spares_command (hOwned : value.IsOwned world) (hQuiet : value.IsQuiet world set)
    (hMethod : method ∈ ["add", "discard"]) :
    (value.toHost >>= fun item => SetProgram.command [item]
      (BridgeM.contract operation (Host.call Host.ops set method [item]))).Spares (fun _ => True) world := by
  obtain ⟨table, hTable⟩ := hOffers.behaves.elements
  have hFacing := facing_crossed hOffers hOwned hQuiet hTable
  apply BridgeM.Spares.crossing hOffers.whole hOwned
  exact (BridgeM.Spares.host hFacing.more (hFacing.spares_call hMethod)).followed fun _ _ => ⟨_, _, rfl, trivial⟩

theorem spares_add (hOwned : value.IsOwned world) (hQuiet : value.IsQuiet world set) :
    (add set value).Spares (fun _ => True) world := by
  rw [add_eq]
  exact spares_command hOffers hOwned hQuiet (by simp)

theorem spares_remove (hOwned : value.IsOwned world) (hQuiet : value.IsQuiet world set) :
    (remove set value).Spares (fun _ => True) world := by
  rw [remove_eq]
  exact spares_command hOffers hOwned hQuiet (by simp)

/-- Something is done with a walk over a set, which is made for it. -/
theorem spares_walking {next : Ref → BridgeM α} {free : α → Prop}
    (hTable : (world.host.body set).elements? = some table)
    (hNext : ∀ start, world.Strolls set table table.toList start →
      Leaves free world.RestoredBeside ((next (.object world.host.cells.size)).run.run start)) :
    (BridgeM.contract .iterate (Host.iterate Host.ops set) >>= fun iterator =>
      BridgeM.keeping [iterator] (next iterator)).Spares free world :=
  .keeping_made hOffers.whole (run_hostIterator hOffers.isPlain hTable)
    (hNext _ ⟨0, table.size, SetTable.remaining_zero table, .refl _⟩)

/-- An element that is equal to a value is looked for. -/
theorem spares_member (hOwned : value.IsOwned world) (hQuiet : value.IsQuiet world set) :
    (member set value).Spares (fun _ => True) world := by
  obtain ⟨table, hTable⟩ := hOffers.behaves.elements
  have hFacing := facing_crossed hOffers hOwned hQuiet hTable
  have hHere := hOffers.extended hFacing.more
  apply BridgeM.Spares.crossing hOffers.whole hOwned
  refine (spares_contains hHere (hOwned.extends hFacing.more.more)
    (hQuiet.extends hOwned hOffers.whole hOffers.live hFacing.more.more)).bind fun found middle _ hRestored => ?_
  cases found with
  | false => exact .pure
  | true =>
    have hLimit : (searchLimit set).Spares (fun _ => False) middle := .of_ok rfl (.inr (.refl middle))
    refine hLimit.bind fun limit last _ hLast => ?_
    have hAll := hRestored.trans hLast
    have hLater := hFacing.extended (hFacing.more.restored hAll) hAll.grows.extends
    have hAfter := hOffers.extended hLater.more
    exact spares_walking hAfter hLater.table_eq fun start hStrolls =>
      leaves_findEqual hLater hAfter.mentions hStrolls (List.Subset.refl _) limit

/-- Some element is taken. -/
theorem spares_anyElement : (anyElement set).Spares (fun _ => True) world := by
  obtain ⟨table, hTable⟩ := hOffers.behaves.elements
  rw [anyElement_eq]
  refine spares_walking hOffers hTable fun start hStrolls => ?_
  have hSet : world.isReferenced set = true := World.isReferenced_iff.mpr (.inr hOffers.mentions)
  have hElements : ∀ ref ∈ table.toList, world.isReferenced ref = true := fun ref hRef =>
    World.isReferenced_of_refersTo (Host.refersTo_of_element hOffers.live hTable hRef)
  rw [run_bind]
  generalize table.toList = left at hStrolls hElements
  cases left with
  | nil =>
    obtain ⟨after, hNext, _⟩ := hStrolls.walks.run_next_nil hOffers.mentions hOffers.live hTable
    rw [hNext]
    exact .inl trivial
  | cons ref rest =>
    obtain ⟨after, hNext, hAfter⟩ := hStrolls.run_next hOffers.mentions hTable
    have hRef : after.isReferenced ref = true :=
      hAfter.walks.extends.referenced (hElements ref List.mem_cons_self)
    have hTold : (elementValue (some ref)).Spares (fun _ => True) after :=
      spares_elementValue (some ref) fun other hOther => Option.mem_some.mp hOther ▸ hRef
    rw [hNext]
    exact hTold.imp fun last hLast => (hAfter.restored hLast).beside hSet

omit hOffers

/-- A proxy of a new copy is made. -/
theorem spares_mutableCopy_made {body : Body} (hWhole : world.IsWhole)
    (hCopy : HostM.runOn (Host.call Host.ops set "copy" []) world = (.ok (.object world.host.cells.size),
      { world with host := (world.host.allocate { body }).2 }))
    (hHandle : body.isHandle = false) (hRefs : ∀ ref ∈ body.references, world.isReferenced ref = true) :
    (mutableCopy set).Spares (fun _ => True) world := by
  have hCreate : Leaves (fun _ => True) world.Restored
      ((create (.object world.host.cells.size)).run.run (world.making body)) := by
    apply leaves_create
    intro refusals hRefusals
    have hBeside : world.RestoredBeside { world.making body with refusals } :=
      ⟨body, hHandle, hRefs, .of_calm hRefusals (.refl _)⟩
    exact hBeside.giveBack hWhole
  rw [BridgeM.Spares, mutableCopy_eq, run_bind, BridgeM.contract, BridgeM.run_host, hCopy]
  exact hCreate

include hOffers

/-- If the set is its own copy, a proxy of the set itself is made. -/
theorem spares_mutableCopy : (mutableCopy set).Spares (fun _ => True) world := by
  obtain ⟨table, hTable⟩ := hOffers.behaves.elements
  have hCopying := hOffers.behaves.copying
  have hElements : ∀ ref ∈ table.copied.toList, world.isReferenced ref = true := by
    intro ref hRef
    have hElement : ref ∈ table.toList := table.toList_copied.subset hRef
    exact World.isReferenced_of_refersTo (Host.refersTo_of_element hOffers.live hTable hElement)
  cases hBody : world.host.body set <;> rw [hBody] at hTable <;> cases hTable <;>
    have hSome := congrArg Body.elements? hBody
  · have hCopy := Host.runOn_copy hCopying hSome (Host.SetObject.eval_copy_set hBody _)
    exact spares_mutableCopy_made hOffers.whole hCopy rfl hElements
  · have hCopy := Host.SetObject.eval_copy_frozen hBody { nesting := 1 }
    split at hCopy
    next =>
      have hReferenced : world.isReferenced set = true := World.isReferenced_iff.mpr (.inr hOffers.mentions)
      rw [BridgeM.Spares, mutableCopy_eq, run_bind, BridgeM.contract, BridgeM.run_host,
        Host.runOn_copy hCopying hSome hCopy]
      exact leaves_create fun refusals hRefusals => World.restored_letGo hReferenced hRefusals
    next => exact spares_mutableCopy_made hOffers.whole (Host.runOn_copy hCopying hSome hCopy) rfl hElements

end ForeignSet

end HeapBridge
