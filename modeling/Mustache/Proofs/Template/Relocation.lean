import Mustache.Proofs.Template.LineGrammar
import Mustache.Proofs.Template.Nesting

/-!
# Lines that move

A line is scanned without a look at its neighbours or at its own number. When lines are given other
numbers, their tokens move along, what is wrong with them is shown at the new numbers, and nothing
else changes. Whether sections nest does not depend on where their tags stand either.
-/

namespace Mustache

variable {α β γ δ : Type} {place : Int → Int}

/-- A token whose line has been given another number. -/
def Token.moved (place : Int → Int) (t : Token) : Token := { t with line := place t.line }

/-- An error whose line has been given another number. -/
def SyntaxError.moved (place : Int → Int) (e : SyntaxError) : SyntaxError :=
  { e with line := place e.line }

namespace SyntaxError

/-- An outcome whose lines have been given other numbers; `f` says what becomes of a value. -/
def carry (place : Int → Int) (f : α → β) (x : Except SyntaxError α) : Except SyntaxError β :=
  (x.map f).mapError (moved place)

/-- Two computations in a row are carried if each of them is. -/
theorem carry_bind {f : α → β} {g : γ → δ} {x : Except SyntaxError α}
    {k : α → Except SyntaxError γ} {k' : β → Except SyntaxError δ}
    (hk : ∀ a, k' (f a) = carry place g (k a)) :
    carry place f x >>= k' = carry place g (x >>= k) := by
  cases x with
  | error e => rfl
  | ok a => exact hk a

/-- Lines are moved before or after what else is done. -/
theorem carry_map {f : α → β} {g : γ → δ} {h : α → γ} {h' : β → δ} (x : Except SyntaxError α)
    (hh : ∀ a, h' (f a) = g (h a)) :
    (carry place f x).map h' = carry place g (x.map h) := by
  cases x with
  | error e => rfl
  | ok a => exact congrArg Except.ok (hh a)

end SyntaxError

open SyntaxError

/-! ## Scanning -/

section
variable {n m : Nat} (hplace : place n = m)
include hplace

theorem Token.ofNamed_moved (kind : Kind) (name content : List Char) (column : Nat) :
    ofNamed kind name content m column =
      carry place (Token.moved place) (ofNamed kind name content n column) := by
  unfold ofNamed
  rw [← hplace]
  split
  · rfl
  · rfl

/-- A tag is read alike on any line. -/
theorem Token.ofTag_moved (content : List Char) (column : Nat) :
    ofTag content m column = carry place (Token.moved place) (ofTag content n column) := by
  unfold ofTag
  have hnamed := Token.ofNamed_moved hplace
  split
  · rw [← hplace]; rfl
  · split
    · exact hnamed _ _ _ _
    · rw [← hplace]; rfl
  · split
    · exact hnamed _ _ _ _
    · rw [← hplace]; rfl
    · rw [← hplace]; rfl
    · exact hnamed _ _ _ _

end

namespace Line

/-- A tag of a line that has been given another number. -/
def Tagged.moved (place : Int → Int) (tag : Tagged) : Tagged :=
  { tag with token := tag.token.moved place }

/-- The cuts of a line that has been given another number. -/
def Cuts.moved (place : Int → Int) (c : Cuts) : Cuts :=
  { c with tags := c.tags.map (Tagged.moved place) }

/-- A line is cut in the same places whatever its number. -/
theorem cuts_moved {n m : Nat} (hplace : place n = m) (column : Nat) (s : List Char) :
    cuts m column s = carry place (Cuts.moved place) (cuts n column s) := by
  induction hlength : s.length using Nat.strongRecOn generalizing column s with
  | ind length ih =>
  cases hcut : cut '{' '{' s with
  | none =>
    rw [Layout.cuts_of_none hcut, Layout.cuts_of_none hcut]
    rfl
  | some found =>
    obtain ⟨before, opened⟩ := found
    rw [Layout.cuts_of_some hcut, Layout.cuts_of_some hcut]
    split
    · rw [← hplace]; rfl
    · rw [← hplace]; rfl
    -- the column does not depend on the number of the line
    · next content rest hstray htag =>
      have hlt : rest.length < length := by
        have hrest := length_lt_of_takeTag htag
        rw [← hlength, eq_of_cut hcut]
        simp only [List.length_append, List.length_cons]
        omega
      rw [Token.ofTag_moved hplace]
      refine carry_bind fun token => ?_
      rw [ih _ hlt _ rest rfl]
      exact carry_bind fun c => rfl

/-- Whether a line stands alone does not depend on its number. -/
theorem isStandalone_moved (c : Cuts) : (c.moved place).isStandalone = c.isStandalone := by
  obtain ⟨tags, rest, column⟩ := c
  match tags with
  | [] => rfl
  | [_] => rfl
  | _ :: _ :: _ => rfl

theorem ofText_moved {n m : Nat} (hplace : place n = m) (s : List Char) (column : Nat) :
    Token.ofText s m column = (Token.ofText s n column).map (Token.moved place) := by
  unfold Token.ofText
  rw [← hplace]
  split
  · rfl
  · rfl

/-- The tokens of a line are moved with it. -/
theorem tokens_moved {n m : Nat} (hplace : place n = m) (body : List Char) (ending : LineEnding)
    (c : Cuts) :
    (c.moved place).tokens ⟨m, body, ending⟩ =
      (c.tokens ⟨n, body, ending⟩).map (Token.moved place) := by
  unfold Cuts.tokens
  rw [isStandalone_moved]
  have htext := ofText_moved hplace
  split
  · simp [Cuts.moved, Tagged.moved, Function.comp_def]
  · simp [Cuts.moved, Tagged.moved, htext, List.map_flatMap, List.flatMap_map]

/-- A line with another number has the same tokens and errors at that number. -/
theorem scan_moved {n m : Nat} (hplace : place n = m) (body : List Char) (ending : LineEnding) :
    scan ⟨m, body, ending⟩ =
      carry place (List.map (Token.moved place)) (scan ⟨n, body, ending⟩) := by
  unfold scan
  rw [cuts_moved hplace]
  exact carry_map _ (tokens_moved hplace body ending)

/-- Lines with other numbers have the same tokens and errors at those numbers. -/
theorem scanAll_moved {n m : Nat} {lines : List (List Char × LineEnding)}
    (hplace : ∀ i < lines.length, place ((n + i : Nat) : Int) = (m + i : Nat)) :
    scanAll (numbered m lines) =
      carry place (List.map (Token.moved place)) (scanAll (numbered n lines)) := by
  induction lines generalizing n m with
  | nil => rfl
  | cons line rest ih =>
    obtain ⟨body, ending⟩ := line
    have hhere : place n = m := hplace 0 (Nat.zero_lt_succ _)
    have hrest := ih (n := n + 1) (m := m + 1) fun i hi => by
      rw [Nat.add_right_comm n, Nat.add_right_comm m]
      exact hplace (i + 1) (Nat.succ_lt_succ hi)
    rw [numbered, numbered, scanAll, scanAll, scan_moved hhere, hrest]
    cases scan ⟨n, body, ending⟩ with
    | error e => rfl
    | ok tokens => exact carry_map _ fun later => (List.map_append ..).symm

end Line

/-! ## Nesting -/

namespace Nesting

/-- A refusal whose line has been given another number. -/
def Refusal.moved (place : Int → Int) (r : Refusal) : Refusal := (r.1, place r.2)

/-- The stack of open sections moves with its tokens, and so does a refusal. -/
theorem step_moved (opened : List Token) (t : Token) :
    step (opened.map (Token.moved place)) (t.moved place) =
      ((step opened t).map (List.map (Token.moved place))).mapError (Refusal.moved place) := by
  unfold step
  have hkind : (t.moved place).kind = t.kind := rfl
  rw [hkind]
  split
  · rfl
  · rfl
  · cases opened with
    | nil => rfl
    | cons o outer =>
      have hvalue (u : Token) : (u.moved place).value = u.value := rfl
      simp only [List.map_cons, hvalue]
      split
      · rfl
      · rfl
  · rfl

/-- A section that is left open is told of at its own line. -/
theorem settle_moved (opened : List Token) :
    settle (opened.map (Token.moved place)) = (settle opened).mapError (Refusal.moved place) := by
  cases opened with
  | nil => rfl
  | cons o outer => rfl

/-- Tokens at other lines nest if they did before, and are refused at the line that has moved. -/
theorem checkFrom_moved (opened tokens : List Token) :
    checkFrom (opened.map (Token.moved place)) (tokens.map (Token.moved place)) =
      (checkFrom opened tokens).mapError (Refusal.moved place) := by
  induction tokens generalizing opened with
  | nil => exact settle_moved opened
  | cons t ts ih =>
    by_cases hf : t.kind = .finish
    · rw [List.map_cons, checkFrom_of_finish hf, checkFrom_of_finish (t := t.moved place) hf]
      exact settle_moved opened
    · rw [List.map_cons, checkFrom_cons hf, checkFrom_cons (t := t.moved place) hf, step_moved]
      cases step opened t with
      | error e => rfl
      | ok after => exact ih after

end Nesting

end Mustache
