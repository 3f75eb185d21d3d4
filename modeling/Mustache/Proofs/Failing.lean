/-!
# Computations that may fail

How the outcome of two computations, the second run on the value of the first, comes about.
-/

namespace Mustache

variable {ε α β : Type} {x : Except ε α} {f : α → Except ε β}

/-- Two computations in a row succeed if the first one does and the second one from its answer. -/
theorem bind_eq_ok_iff {b : β} : x >>= f = .ok b ↔ ∃ a, x = .ok a ∧ f a = .ok b := by
  cases x <;> simp [bind, Except.bind]

/-- They fail if the first one does, or the second one from its answer. -/
theorem bind_eq_error_iff {e : ε} :
    x >>= f = .error e ↔ x = .error e ∨ ∃ a, x = .ok a ∧ f a = .error e := by
  cases x <;> simp [bind, Except.bind]

theorem map_eq_ok_iff {g : α → β} {b : β} : x.map g = .ok b ↔ ∃ a, x = .ok a ∧ g a = b := by
  cases x <;> simp [Except.map]

theorem map_eq_error_iff {g : α → β} {e : ε} : x.map g = .error e ↔ x = .error e := by
  cases x <;> simp [Except.map]

theorem mapError_eq_ok_iff {δ : Type} {g : ε → δ} {a : α} : x.mapError g = .ok a ↔ x = .ok a := by
  cases x with
  | error e =>
    constructor
    · intro h
      cases h
    · intro h
      cases h
  | ok b =>
    constructor
    · intro h
      exact congrArg Except.ok (Except.ok.inj h)
    · intro h
      exact congrArg Except.ok (Except.ok.inj h)

theorem mapError_eq_error_iff {δ : Type} {g : ε → δ} {e : δ} :
    x.mapError g = .error e ↔ ∃ e', x = .error e' ∧ g e' = e := by
  cases x with
  | error e' =>
    constructor
    · intro h
      exact ⟨e', rfl, Except.error.inj h⟩
    · rintro ⟨_, heq, rfl⟩
      exact congrArg Except.error (congrArg g (Except.error.inj heq))
  | ok a => exact iff_of_false nofun fun ⟨_, heq, _⟩ => nomatch heq

/-- Going over a list succeeds if every item does. -/
theorem exists_mapM_eq_ok_iff {items : List α} :
    (∃ bs, items.mapM f = .ok bs) ↔ ∀ a ∈ items, ∃ b, f a = .ok b := by
  induction items with
  | nil => exact iff_of_true ⟨[], rfl⟩ nofun
  | cons a items ih =>
    rw [List.forall_mem_cons, ← ih, List.mapM_cons]
    constructor
    · rintro ⟨bs, hbs⟩
      obtain ⟨b, hb, hrest⟩ := bind_eq_ok_iff.1 hbs
      obtain ⟨rest, hrest, -⟩ := bind_eq_ok_iff.1 hrest
      exact ⟨⟨b, hb⟩, rest, hrest⟩
    · rintro ⟨⟨b, hb⟩, rest, hrest⟩
      exact ⟨b :: rest, bind_eq_ok_iff.2 ⟨b, hb, bind_eq_ok_iff.2 ⟨rest, hrest, rfl⟩⟩⟩

end Mustache
