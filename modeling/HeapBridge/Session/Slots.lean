/-!
Named slots. A name has at most one slot, and the slots are kept in the order of their names, so the
first slot with some content is the one with the least name.
-/
namespace HeapBridge

structure Slots (α : Type) where
  entries : List (String × α)
  ordered : entries.Pairwise fun a b => a.1 < b.1

namespace Slots

variable {α : Type}

instance : EmptyCollection (Slots α) := ⟨⟨[], .nil⟩⟩

instance : Inhabited (Slots α) := ⟨∅⟩

def fill (name : String) (content : α) : List (String × α) → List (String × α)
  | [] => [(name, content)]
  | (other, old) :: rest =>
    if name = other then (name, content) :: rest
    else if name < other then (name, content) :: (other, old) :: rest
    else (other, old) :: fill name content rest

/-- Filling a slot brings in nothing but its content. -/
theorem eq_or_mem_of_mem_fill {name : String} {content : α} {entries : List (String × α)}
    {entry : String × α} (hEntry : entry ∈ fill name content entries) :
    entry = (name, content) ∨ entry ∈ entries := by
  induction entries with
  | nil => exact .inl (List.mem_singleton.mp hEntry)
  | cons first rest ih =>
    rw [fill] at hEntry
    split at hEntry
    · rcases List.mem_cons.mp hEntry with hNew | hRest
      · exact .inl hNew
      · exact .inr (List.mem_cons_of_mem _ hRest)
    · split at hEntry
      · exact List.mem_cons.mp hEntry
      · rcases List.mem_cons.mp hEntry with hFirst | hRest
        · exact .inr (hFirst ▸ List.mem_cons_self)
        · exact (ih hRest).imp_right (List.mem_cons_of_mem _)

/-- Slots stay in order of their names. -/
theorem ordered_fill (name : String) (content : α) {entries : List (String × α)}
    (hEntries : entries.Pairwise fun a b => a.1 < b.1) :
    (fill name content entries).Pairwise fun a b => a.1 < b.1 := by
  induction entries with
  | nil => exact .cons (by simp) .nil
  | cons first rest ih =>
    obtain ⟨hFirst, hRest⟩ := List.pairwise_cons.mp hEntries
    rw [fill]
    split
    next hSame => exact .cons (fun entry hMem => hSame ▸ hFirst entry hMem) hRest
    next hOther =>
      split
      next hLess =>
        refine .cons (fun entry hMem => ?_) hEntries
        rcases List.mem_cons.mp hMem with hEq | hMem
        · exact hEq ▸ hLess
        · exact String.lt_trans hLess (hFirst entry hMem)
      next hGreater =>
        refine .cons (fun entry hMem => ?_) (ih hRest)
        rcases eq_or_mem_of_mem_fill hMem with hEq | hMem
        · exact hEq ▸ Std.lt_of_le_of_ne (String.not_lt.mp hGreater) (Ne.symm hOther)
        · exact hFirst entry hMem

def get? (slots : Slots α) (name : String) : Option α := slots.entries.lookup name

/-- Fills a slot; what was in it before is gone. -/
def put (slots : Slots α) (name : String) (content : α) : Slots α where
  entries := fill name content slots.entries
  ordered := ordered_fill name content slots.ordered

def erase (slots : Slots α) (name : String) : Slots α where
  entries := slots.entries.filter fun slot => slot.1 ≠ name
  ordered := slots.ordered.filter _

def nameOf? (slots : Slots α) (test : α → Bool) : Option String :=
  (slots.entries.find? fun slot => test slot.2).map (·.1)

end Slots

end HeapBridge
