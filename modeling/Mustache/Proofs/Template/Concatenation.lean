import Mustache.Proofs.Template.Insertion

/-!
# Texts behind texts

Behind a line break a text goes on as if it began there: no line lies across the seam, and at the
seam no section is open if the first text compiles. So two texts that compile do so together, and
the nodes are those of the one behind those of the other. Only where a text node comes to stand
behind a text node the two become one.
-/

namespace Mustache

namespace Node

/-- Nodes behind nodes. Where a text meets a text at the seam, they are one. -/
def join (before after : List Node) : List Node :=
  match before.getLast?, after with
  | some (.text s), .text t :: rest => before.dropLast ++ .text (s ++ t) :: rest
  | _, _ => before ++ after

/-! ## The seam, one node at a time -/

/-- A single text goes in front of what follows. -/
theorem join_text (s : String) (after : List Node) : join [.text s] after = consText s after := by
  cases after with
  | nil => rfl
  | cons first rest => cases first <;> rfl

/-- A node that is no text stays in front as it is. -/
theorem join_of_ne_text {first : Node} (h : ∀ s, first ≠ .text s) (after : List Node) :
    join [first] after = first :: after := by
  cases first with
  | text s => exact absurd rfl (h s)
  | _ => rfl

/-- All nodes but the last one stay in front as they are. -/
theorem join_cons_cons (first next : Node) (rest after : List Node) :
    join (first :: next :: rest) after = first :: join (next :: rest) after := by
  unfold join
  rw [List.getLast?_cons_cons, List.dropLast_cons_cons]
  split <;> rfl

/-- A node that is no text stands as it is. -/
theorem join_cons_of_ne_text {first : Node} (h : ∀ s, first ≠ .text s) (rest after : List Node) :
    join (first :: rest) after = first :: join rest after := by
  cases rest with
  | nil => exact join_of_ne_text h after
  | cons next rest => exact join_cons_cons first next rest after

/-- Text in front stays in front when more is joined behind. -/
theorem join_consText (s : String) (nodes after : List Node) :
    join (consText s nodes) after = consText s (join nodes after) := by
  cases nodes with
  | nil => exact join_text s after
  | cons first rest =>
    cases first with
    | text t =>
      cases rest with
      | nil =>
        show join [.text (s ++ t)] after = _
        rw [join_text, join_text, consText_append]
      | cons next rest =>
        show join (.text (s ++ t) :: next :: rest) after = _
        rw [join_cons_cons, join_cons_cons]
        rfl
    | _ =>
      show join (.text s :: _ :: rest) after = _
      rw [join_cons_cons, join_cons_of_ne_text (by simp)]
      rfl

/-- What a token adds is added in front of the joined nodes. -/
theorem join_consToken (t : Token) (nodes after : List Node) :
    join (consToken t nodes) after = consToken t (join nodes after) := by
  unfold consToken
  split
  · exact join_consText t.value nodes after
  · exact join_cons_of_ne_text (by simp) nodes after
  · exact join_cons_of_ne_text (by simp) nodes after
  · exact join_cons_of_ne_text (by simp) nodes after
  · exact join_cons_of_ne_text (by simp) nodes after
  · rfl

/-- Marks behind marks spell nodes behind nodes: no section lies across the seam. -/
theorem Spelled.append {marks more : List (Token.Kind × String)} {nodes after : List Node}
    (h : Spelled marks nodes) (hmore : Spelled more after) :
    Spelled (marks ++ more) (join nodes after) := by
  induction h with
  | nil => exact hmore
  | @plain marks nodes t hf ho he _ ih =>
    rw [List.cons_append, join_consToken]
    exact .plain hf ho he ih
  | @nested inside marks body nodes t ho hbody _ _ ih =>
    rw [List.cons_append, List.append_assoc, List.cons_append, join_cons_of_ne_text (by simp)]
    exact .nested ho hbody ih

end Node

namespace Template

open Line Node

theorem parse_of_compile {text name : String} {t : Template} (h : compile text name = .ok t) :
    parse text = .ok t.nodes := by
  unfold compile at h
  split at h
  · cases h
  · next hparse =>
    rw [hparse, ← Except.ok.inj h]

/-- A text that is read has tokens, and they spell its nodes. -/
theorem exists_tokens_of_parse {text : String} {nodes : List Node} (h : parse text = .ok nodes) :
    ∃ tokens, scanAll (split text.toList) = .ok tokens ∧
      Spelled (tokens.map Token.said) nodes := by
  cases hscan : scanAll (split text.toList) with
  | error e =>
    rw [parse_of_scan_error hscan] at h
    cases h
  | ok tokens =>
    rw [parse_of_scan_ok hscan] at h
    have hspelled := spelled_of_ofTokens h
    rw [marksBeforeEnd_concat (fun t ht => kind_ne_finish_of_scanAll hscan ht) rfl] at hspelled
    exact ⟨tokens, rfl, hspelled⟩

/-- A text behind whole lines is read as what it is by itself. -/
theorem parse_append {a b : String} (ha : a = "" ∨ a.toList.getLast? = some '\n')
    {nodes after : List Node} (hnodes : parse a = .ok nodes) (hafter : parse b = .ok after) :
    parse (a ++ b) = .ok (join nodes after) := by
  obtain ⟨tokens, hscan, hspelled⟩ := exists_tokens_of_parse hnodes
  obtain ⟨later, hscan', hspelled'⟩ := exists_tokens_of_parse hafter
  have hends := ends_toList ha
  have hlines : split (a ++ b).toList =
      split a.toList ++ numbered (1 + (bodies a.toList).length) (bodies b.toList) := by
    rw [split, split, String.toList_append, bodies_append_of_ends hends, numbered_append]
  -- the lines of the second text have other numbers now
  let place : Int → Int := fun i => i + (bodies a.toList).length
  have hmoved : scanAll (numbered (1 + (bodies a.toList).length) (bodies b.toList)) =
      SyntaxError.carry place (List.map (Token.moved place))
        (scanAll (numbered 1 (bodies b.toList))) := by
    apply scanAll_moved
    intro i _
    show ((1 + i : Nat) : Int) + (bodies a.toList).length = _
    omega
  have hwhole : scanAll (split (a ++ b).toList) =
      .ok (tokens ++ later.map (Token.moved place)) := by
    have hlater : scanAll (numbered 1 (bodies b.toList)) = .ok later := hscan'
    rw [hlines, scanAll_append, hscan, hmoved, hlater]
    rfl
  rw [parse_of_scan_ok hwhole]
  apply ofTokens_of_spelled (hspelled.append hspelled')
  rw [List.map_append, said_moved]

end Template

end Mustache
