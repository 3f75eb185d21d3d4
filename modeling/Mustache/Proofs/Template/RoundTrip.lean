import Mustache.Proofs.Template.Page

/-!
# Printed nodes are read back

Nodes are printed in front of a page from the last one to the first. Each of them leaves a page, on
which it is spelled right before what was there already. A tag can go in front of any page; a text
needs a page that begins with a tag or is empty, and this is what it means that no two texts stand
side by side.

What a text spells depends neither on how it is cut into lines nor on what is on the lines with it,
so the tokens of a printed text spell the nodes that were printed, and reading gives them back.
-/

namespace Mustache

open Line

namespace Node

/-- The page `q` is the page `p` with nodes printed in front. -/
structure PrintedOn (p : Page) (nodes : List Node) (q : Page) : Prop where
  chars : q.chars = (printAll nodes).toList ++ p.chars
  spelled : ∃ marks, Spelled marks nodes ∧ q.said = marks ++ p.said
  opens : beginsWithText nodes = false → q.Opens

/-- Pragmas spell nothing. -/
theorem Spelled.pragma {marks : List (Token.Kind × String)} {nodes : List Node}
    (h : Spelled marks nodes) : Spelled ((.pragma, "") :: marks) nodes :=
  .plain (t := ⟨.pragma, "", 1, 1⟩) (by decide) rfl (by decide) h

/-! ## One node in front of nodes that are printed -/

/-- A tag can be printed in front of any page. -/
theorem exists_printTag (p : Page) (kind : Token.Kind) {name : String} (hkind : kind.IsTag)
    (hname : FitsTag name) (hnamed : kind = .comment ∨ name ≠ "") :
    ∃ q : Page, q.chars = (printTag kind name).toList ++ p.chars ∧ q.Opens ∧
      q.said = (kind, name) :: (.pragma, "") :: p.said := by
  obtain ⟨q, hchars, hopens, hsaid⟩ :=
    p.exists_consTag (Tag.valid_spaced hkind hname hnamed) (Tag.not_mem_chars_spaced hname)
  refine ⟨q, by rw [hchars, Tag.toList_printTag], hopens, ?_⟩
  rw [hsaid, Tag.kind_spaced hkind, Tag.trim_name_spaced hkind hname, String.ofList_toList]

section
variable {p q : Page} {rest : List Node}

/-- Text may stand in front of anything that begins with none. -/
theorem PrintedOn.exists_text (h : PrintedOn p rest q) (hrest : beginsWithText rest = false)
    {s : String} (hne : s ≠ "") (hs : Layout.MayPrecedeTag s.toList) :
    ∃ r, PrintedOn p (.text s :: rest) r := by
  obtain ⟨marks, hspelled, hsaid⟩ := h.spelled
  obtain ⟨r, hchars, pieces, hpieces, hsaid'⟩ := q.exists_consText (h.opens hrest) hs
  have hpieces_ne : pieces ≠ [] := by
    rintro rfl
    exact hne (String.toList_eq_nil_iff.1 hpieces.symm)
  have htext : consText s rest = .text s :: rest := by
    unfold consText
    split
    · cases hrest
    · rfl
  have hspelled' := spelled_pieces hpieces_ne hspelled
  rw [hpieces, String.ofList_toList, htext] at hspelled'
  refine ⟨r, ?_, ⟨_, hspelled', ?_⟩, fun h => by cases h⟩
  · rw [hchars, h.chars, printAll, print, String.toList_append, List.append_assoc]
  · rw [hsaid', hsaid, List.append_assoc]

/-- A node of one tag, given by what its token says. -/
theorem PrintedOn.exists_tag (h : PrintedOn p rest q) {t : Token} {node : Node}
    (hkind : t.kind.IsTag) (ho : t.opensSection = false) (he : t.kind ≠ .sectionEnd)
    (hname : FitsTag t.value) (hnamed : t.kind = .comment ∨ t.value ≠ "")
    (hprint : node.print = printTag t.kind t.value) (hnode : consToken t rest = node :: rest) :
    ∃ r, PrintedOn p (node :: rest) r := by
  obtain ⟨marks, hspelled, hsaid⟩ := h.spelled
  obtain ⟨r, hchars, hopens, hsaid'⟩ := exists_printTag q t.kind hkind hname hnamed
  have hspelled' := Spelled.plain hkind.2 ho he hspelled.pragma
  rw [hnode] at hspelled'
  refine ⟨r, ?_, ⟨_, hspelled', ?_⟩, fun _ => hopens⟩
  · rw [hchars, h.chars, printAll, hprint, String.toList_append, List.append_assoc]
  · rw [hsaid', hsaid]
    rfl

/-- The closing tag of a block opens the page for the last text of its body. -/
theorem PrintedOn.exists_block (h : PrintedOn p rest q) {inverted : Bool} {name : String}
    {body : List Node} (hne : name ≠ "") (hname : FitsTag name)
    (hbody : ∀ p : Page, p.Opens → ∃ q, PrintedOn p body q) :
    ∃ r, PrintedOn p (.block inverted name body :: rest) r := by
  obtain ⟨marks, hspelled, hsaid⟩ := h.spelled
  obtain ⟨closed, hclosed, hcloses, hsaid_close⟩ :=
    exists_printTag q .sectionEnd ⟨by decide, by decide⟩ hname (.inr hne)
  obtain ⟨inside, hinside⟩ := hbody closed hcloses
  obtain ⟨marks', hspelled', hsaid'⟩ := hinside.spelled
  let t : Token := ⟨if inverted then .invertedStart else .sectionStart, name, 1, 1⟩
  have hkind : t.kind.IsTag := by cases inverted <;> simp [t, Token.Kind.IsTag]
  have hopens : t.opensSection = true := by cases inverted <;> rfl
  have hinverted : (t.kind == .invertedStart) = inverted := by cases inverted <;> rfl
  obtain ⟨r, hchars, hr, hsaid_open⟩ := exists_printTag inside t.kind hkind hname (.inr hne)
  have hblock := Spelled.nested hopens hspelled'.pragma hspelled.pragma
  rw [hinverted] at hblock
  refine ⟨r, ?_, ⟨_, hblock, ?_⟩, fun _ => hr⟩
  · rw [hchars, hinside.chars, hclosed, h.chars, printAll, print]
    simp [t]
  · rw [hsaid_open, hsaid', hsaid_close, hsaid]
    simp [t, Token.said]

end

/-! ## All nodes -/

/-- Printable nodes can be printed in front of a page that begins with a tag or is empty. -/
theorem exists_printedOn : (nodes : List Node) → AllPrintable nodes → (p : Page) → p.Opens →
    ∃ q, PrintedOn p nodes q
  | [], _, p, ho => ⟨p, rfl, ⟨[], .nil, rfl⟩, fun _ => ho⟩
  | node :: rest, ⟨hnode, hrest, happart⟩, p, ho => by
    obtain ⟨q, hq⟩ := exists_printedOn rest hrest p ho
    cases node with
    | text s => exact hq.exists_text (by simpa using happart rfl) hnode.1 hnode.2
    | «variable» name escape =>
      cases escape with
      | true =>
        exact hq.exists_tag (t := ⟨.variable, name, 1, 1⟩) ⟨by simp, by simp⟩ rfl (by simp)
          hnode.2 (.inr hnode.1) rfl rfl
      | false =>
        exact hq.exists_tag (t := ⟨.unescaped, name, 1, 1⟩) ⟨by simp, by simp⟩ rfl (by simp)
          hnode.2 (.inr hnode.1) rfl rfl
    | inclusion name =>
      exact hq.exists_tag (t := ⟨.inclusion, name, 1, 1⟩) ⟨by simp, by simp⟩ rfl (by simp)
        hnode.2 (.inr hnode.1) rfl rfl
    | comment s =>
      exact hq.exists_tag (t := ⟨.comment, s, 1, 1⟩) ⟨by simp, by simp⟩ rfl (by simp)
        hnode (.inl rfl) rfl rfl
    | block inverted name body =>
      exact hq.exists_block hnode.1.1 hnode.1.2 fun p ho => exists_printedOn body hnode.2 p ho
    | foreign => exact hnode.elim

end Node

namespace Template

open Node

/-- Reading the text of printable nodes gives these nodes. -/
theorem parse_printAll {nodes : List Node} (h : AllPrintable nodes) :
    parse (printAll nodes) = .ok nodes := by
  obtain ⟨p, hp⟩ := exists_printedOn nodes h .empty trivial
  obtain ⟨marks, hspelled, hsaid⟩ := hp.spelled
  obtain ⟨tokens, hscan, htokens⟩ := p.exists_scanAll 1
  have hchars : p.chars = (printAll nodes).toList := hp.chars.trans (List.append_nil _)
  have hmarks : tokens.map Token.said = marks := by
    rw [htokens, hsaid]
    exact List.append_nil marks
  rw [hchars] at hscan
  simp only [parse, Token.scan, Line.split, hscan, Except.map]
  exact ofTokens_of_spelled hspelled hmarks _

/-- Nodes with braces, marks of tags and line breaks in their names and texts. -/
def bracedNodes : List Node :=
  [.text "\x7d\r\n \x7ba\n", .variable "#a" true, .variable "\x7b" true, .text "\n", .comment "",
    .block true "a\x7d" [.inclusion "\x7b\x7b", .block false "!" []], .text "\x7d\r"]

/-- Printing and reading back does not take braces of names and texts for those of tags. -/
theorem parse_printAll_bracedNodes :
    AllPrintable bracedNodes ∧ parse (printAll bracedNodes) = .ok bracedNodes := by
  have hprintable : AllPrintable bracedNodes := by decide
  exact ⟨hprintable, parse_printAll hprintable⟩

end Template

end Mustache
