import Mathlib.Data.List.Infix
import Mustache.Text.Escape

/-!
# Escaped texts

Escaping writes each special character as an entity in one pass. This is the same as replacing the
five characters one after the other, provided that the ampersand comes first: a later replacement
brings in ampersands of its own.

An escaped text is inert: it holds no character that could open a tag or end an attribute, and an
ampersand in it is always the front of an entity. Nothing is lost, for reading the entities back
gives the text.
-/

namespace Mustache.Text

/-- The special characters and the entities that stand for them, in the order in which they are
replaced. -/
def entities : List (Char × List Char) :=
  [('&', ['&', 'a', 'm', 'p', ';']), ('<', ['&', 'l', 't', ';']), ('>', ['&', 'g', 't', ';']),
   ('"', ['&', 'q', 'u', 'o', 't', ';']), ('\'', ['&', '#', 'x', '2', '7', ';'])]

/-- A special character is written as its entity, any other one as it is. -/
theorem escapeChar_cases (c : Char) :
    (c, escapeChar c) ∈ entities ∨ (∀ entity ∈ entities, c ≠ entity.1) ∧ escapeChar c = [c] := by
  unfold escapeChar
  split
  case h_6 hamp hlt hgt hquot hapos =>
    refine .inr ⟨?_, rfl⟩
    simp only [entities, List.forall_mem_cons]
    exact ⟨hamp, hlt, hgt, hquot, hapos, by simp⟩
  all_goals exact .inl (by decide)

/-! ## Replacing characters one after the other -/

/-- A text with every occurrence of a character replaced. -/
def replaceChar (s : List Char) (entity : Char × List Char) : List Char :=
  s.flatMap fun c => if c = entity.1 then entity.2 else [c]

/-- A text with the special characters replaced one after the other. -/
def replaceInTurn (s : List Char) : List Char := entities.foldl replaceChar s

/-- Replacements in turn go through a text in two parts. -/
theorem foldl_replaceChar_append (table : List (Char × List Char)) (s t : List Char) :
    table.foldl replaceChar (s ++ t) = table.foldl replaceChar s ++ table.foldl replaceChar t := by
  induction table generalizing s t with
  | nil => rfl
  | cons entity table ih =>
    have happend : replaceChar (s ++ t) entity = replaceChar s entity ++ replaceChar t entity :=
      List.flatMap_append
    rw [List.foldl_cons, List.foldl_cons, List.foldl_cons, happend, ih]

theorem replaceInTurn_append (s t : List Char) :
    replaceInTurn (s ++ t) = replaceInTurn s ++ replaceInTurn t := by
  rw [replaceInTurn, foldl_replaceChar_append, ← replaceInTurn, ← replaceInTurn]

/-- A character that none of them replaces stays. -/
theorem foldl_replaceChar_of_ne {table : List (Char × List Char)} {c : Char}
    (h : ∀ entity ∈ table, c ≠ entity.1) : table.foldl replaceChar [c] = [c] := by
  induction table with
  | nil => rfl
  | cons entity table ih =>
    obtain ⟨hne, hrest⟩ := List.forall_mem_cons.1 h
    have hkeep : replaceChar [c] entity = [c] := by simp [replaceChar, hne]
    rw [List.foldl_cons, hkeep, ih hrest]

/-- No replacement touches what an earlier one has written. -/
theorem replaceInTurn_entity : ∀ entity ∈ entities, replaceInTurn [entity.1] = entity.2 := by decide

/-- Escaping is the replacement of the special characters one after the other. -/
theorem replaceInTurn_eq_escapeChars (s : List Char) : replaceInTurn s = escapeChars s := by
  induction s with
  | nil => rfl
  | cons c s ih =>
    have hchar : replaceInTurn [c] = escapeChar c := by
      rcases escapeChar_cases c with hmem | ⟨hne, hkeep⟩
      · exact replaceInTurn_entity (c, escapeChar c) hmem
      · rw [replaceInTurn, foldl_replaceChar_of_ne hne, hkeep]
    rw [← List.singleton_append, replaceInTurn_append, hchar, ih, List.singleton_append,
      escapeChars_cons]

/-! ## Reading entities back -/

/-- A text with every entity read as the character that it stands for. -/
def unescapeChars : List Char → List Char
  | '&' :: 'a' :: 'm' :: 'p' :: ';' :: s => '&' :: unescapeChars s
  | '&' :: 'l' :: 't' :: ';' :: s => '<' :: unescapeChars s
  | '&' :: 'g' :: 't' :: ';' :: s => '>' :: unescapeChars s
  | '&' :: 'q' :: 'u' :: 'o' :: 't' :: ';' :: s => '"' :: unescapeChars s
  | '&' :: '#' :: 'x' :: '2' :: '7' :: ';' :: s => '\'' :: unescapeChars s
  | c :: s => c :: unescapeChars s
  | [] => []

/-- `unescapeChars` on strings. -/
def unescape (s : String) : String := String.ofList (unescapeChars s.toList)

theorem unescapeChars_cons {c : Char} (h : c ≠ '&') (s : List Char) :
    unescapeChars (c :: s) = c :: unescapeChars s := by
  rw [unescapeChars]
  all_goals exact fun _ hamp => absurd hamp h

/-- Escaped text is read back. -/
theorem unescapeChars_escapeChars (s : List Char) : unescapeChars (escapeChars s) = s := by
  induction s with
  | nil => rfl
  | cons c s ih =>
    rw [escapeChars_cons]
    unfold escapeChar
    split
    case h_6 hamp _ _ _ _ => rw [List.singleton_append, unescapeChars_cons hamp, ih]
    -- an entity is read back as a whole, so what follows it is read on its own
    all_goals simp [unescapeChars, ih]

theorem toList_escape (s : String) : (escape s).toList = escapeChars s.toList :=
  String.toList_ofList

/-- Nothing is lost in escaping. -/
theorem unescape_escape (s : String) : unescape (escape s) = s := by
  rw [unescape, toList_escape, unescapeChars_escapeChars, String.ofList_toList]

/-! ## Escaped texts are inert -/

/-- A text that can neither open a tag nor end an attribute, and in which every ampersand is the
front of an entity. -/
structure Inert (s : List Char) : Prop where
  special : ∀ c ∈ ['<', '>', '"', '\''], c ∉ s
  ampersand : ∀ after, '&' :: after <:+ s → ∃ entity ∈ entities, entity.2 <+: '&' :: after

theorem inert_nil : Inert [] := ⟨by simp, by simp⟩

/-- An inert text stays inert behind any character that has no entity. -/
theorem Inert.cons {s : List Char} (h : Inert s) {c : Char}
    (hc : c ∉ ['&', '<', '>', '"', '\'']) : Inert (c :: s) := by
  obtain ⟨hamp, hspecial⟩ : c ≠ '&' ∧ c ∉ ['<', '>', '"', '\''] := by simpa using hc
  refine ⟨fun d hd hmem => ?_, fun after hsuffix => ?_⟩
  · rcases List.mem_cons.1 hmem with rfl | hmem
    · exact hspecial hd
    · exact h.special d hd hmem
  · rcases List.suffix_cons_iff.1 hsuffix with heq | hsuffix
    · exact absurd (List.cons.inj heq).1.symm hamp
    · exact h.ampersand after hsuffix

theorem Inert.append {s t : List Char} (h : Inert s)
    (ht : ∀ c ∈ t, c ∉ ['&', '<', '>', '"', '\'']) : Inert (t ++ s) := by
  induction t with
  | nil => exact h
  | cons c t ih =>
    obtain ⟨hc, ht⟩ := List.forall_mem_cons.1 ht
    exact (ih ht).cons hc

/-- The ampersand of an entity is its only special character. -/
theorem entity_shape : ∀ entity ∈ entities,
    entity.2 = '&' :: entity.2.tail ∧ ∀ c ∈ entity.2.tail, c ∉ ['&', '<', '>', '"', '\''] := by
  simp [entities]

theorem Inert.entity_append {s : List Char} (h : Inert s) {entity : Char × List Char}
    (hentity : entity ∈ entities) : Inert (entity.2 ++ s) := by
  obtain ⟨hfront, htail⟩ := entity_shape entity hentity
  have hrest := h.append htail
  rw [hfront, List.cons_append]
  refine ⟨fun c hc hmem => ?_, fun after hsuffix => ?_⟩
  · rcases List.mem_cons.1 hmem with rfl | hmem
    · simp at hc
    · exact hrest.special c hc hmem
  · rcases List.suffix_cons_iff.1 hsuffix with heq | hsuffix
    · refine ⟨entity, hentity, ?_⟩
      rw [heq, hfront]
      exact ⟨s, rfl⟩
    · exact hrest.ampersand after hsuffix

/-- Escaped texts are inert. -/
theorem inert_escapeChars (s : List Char) : Inert (escapeChars s) := by
  induction s with
  | nil => exact inert_nil
  | cons c s ih =>
    rw [escapeChars_cons]
    rcases escapeChar_cases c with hmem | ⟨hne, hkeep⟩
    · exact ih.entity_append hmem
    · rw [hkeep]
      exact ih.cons (by simpa [entities] using hne)

end Mustache.Text
