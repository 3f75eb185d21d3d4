import Mathlib.Data.List.Nodup

/-!
# Looking up in lists of pairs

What is found under a key is in the list, and where the keys are different ones all that is in the
list is found. A pair in front of a list hides what the list has under the same key.
-/

namespace Mustache

variable {α β : Type} [BEq α] [LawfulBEq α] {l : List (α × β)} {a : α} {b : β}

/-- What is found stands in the list. -/
theorem mem_of_lookup (h : l.lookup a = some b) : (a, b) ∈ l := by
  obtain ⟨before, after, rfl, -⟩ := List.lookup_eq_some_iff.1 h
  simp

/-- What stands under a name that occurs once is found. -/
theorem lookup_of_mem (hnodup : (l.map Prod.fst).Nodup) (h : (a, b) ∈ l) : l.lookup a = some b := by
  obtain ⟨before, after, rfl⟩ := List.append_of_mem h
  refine List.lookup_eq_some_iff.2 ⟨before, after, rfl, fun entry hentry => ?_⟩
  rw [List.map_append, List.nodup_append] at hnodup
  -- the keys before the entry are others than its own
  have hne : entry.1 ≠ a :=
    hnodup.2.2 entry.1 (List.mem_map_of_mem hentry) a (List.mem_map_of_mem List.mem_cons_self)
  exact bne_iff_ne.2 hne.symm

/-- The first pair is found under its key, and every other key finds what is behind it. -/
theorem lookup_cons_eq_ite [DecidableEq α] (key : α) (b : β) (l : List (α × β)) (a : α) :
    ((key, b) :: l).lookup a = if a = key then some b else l.lookup a := by
  rw [List.lookup_cons]
  by_cases h : a = key
  · rw [if_pos h, beq_iff_eq.2 h]
  · rw [if_neg h, beq_eq_false_iff_ne.2 h]

end Mustache
