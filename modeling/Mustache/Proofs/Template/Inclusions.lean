import Mustache.Proofs.Template.LineGrammar
import Mustache.Proofs.Template.Reading
import Mustache.Template.Basic

/-!
# The names that a text includes

The templates that a compiled text includes are named by its tags, in order. Since every tag takes
up characters of the text, a text never includes more names than it has characters. That bounds the
chains of templates that can be reached from a text. None of the names is empty.
-/

namespace Mustache

namespace Token

/-- The names in the tags among some tokens that include a template. -/
def included (ts : List Token) : List String :=
  ts.filterMap fun t => if t.kind = .inclusion then some t.value else none

@[simp] theorem included_nil : included [] = [] := rfl

/-- A token includes its name if it is an inclusion. -/
theorem included_cons (t : Token) (ts : List Token) :
    included (t :: ts) = (if t.kind = .inclusion then [t.value] else []) ++ included ts := by
  unfold included
  rw [List.filterMap_cons]
  by_cases h : t.kind = .inclusion
  · simp [h]
  · simp [h]

theorem included_append (ts us : List Token) : included (ts ++ us) = included ts ++ included us :=
  List.filterMap_append

theorem length_included_le (ts : List Token) : (included ts).length ≤ ts.length :=
  List.length_filterMap_le _ _

end Token

namespace Node

/-! ## From nodes to tokens -/

theorem allInclusions_consText (s : String) (nodes : List Node) :
    allInclusions (consText s nodes) = allInclusions nodes := by
  unfold consText
  split <;> simp [allInclusions, inclusions]

/-- A token in front includes its name if it is an inclusion. -/
theorem allInclusions_consToken {t : Token} (nodes : List Node) :
    allInclusions (consToken t nodes) =
      (if t.kind = .inclusion then [t.value] else []) ++ allInclusions nodes := by
  unfold consToken
  split <;> simp_all [allInclusions, inclusions, allInclusions_consText]

/-- The nodes of a reading include what the tokens that it read include. -/
theorem included_of_reads {opening : Option Token} {c d : Cursor} {nodes : List Node}
    (h : Reads opening c nodes d) :
    Token.included c.rest = allInclusions nodes ++ Token.included d.rest := by
  induction h with
  | finished h => rfl
  | @closed opening c d t ts h hk hclose =>
    rw [Cursor.rest_of_close hclose, Cursor.rest_advance h, h, Token.included_cons]
    simp [hk, allInclusions]
  | @nested opening c d e t ts body nodes h hk _ _ ihbody ihnodes =>
    have hkind : t.kind ≠ .inclusion := by
      intro hi
      simp [Token.opensSection, hi] at hk
    rw [Cursor.rest_openSection, Cursor.rest_advance h, ihnodes] at ihbody
    rw [h, Token.included_cons, if_neg hkind, ihbody]
    simp [allInclusions, inclusions]
  | @plain opening c d t ts nodes h hf ho he _ ih =>
    rw [Cursor.rest_advance h] at ih
    rw [h, Token.included_cons, ih, allInclusions_consToken, List.append_assoc]

/-- The inclusions of a tree are those of its tokens, in order; tokens behind the end count for
none. -/
theorem included_of_ofTokens {tokens : List Token} {nodes : List Node}
    (h : ofTokens tokens = .ok nodes) : allInclusions nodes <+: Token.included tokens := by
  rw [ofTokens_eq_reading] at h
  obtain ⟨⟨nodes, d⟩, hreading, rfl⟩ := map_eq_ok_iff.1 h
  have hincluded : Token.included tokens = _ := included_of_reads (reads_of_reading hreading)
  rw [hincluded]
  exact List.prefix_append _ _

end Node

namespace Line

/-! ## From tokens to characters -/

theorem included_textToken (s : List Char) (line column : Nat) :
    Token.included (Layout.textToken s line column) = [] := by
  unfold Layout.textToken
  split <;> simp [Token.included]

/-- A line includes no more names than it has tags. -/
theorem length_included_tokensFrom (line : Line) (rest : List Char) (column : Nat)
    (tags : List (List Char × Tag)) :
    (Token.included (Layout.tokensFrom line rest column tags)).length ≤ tags.length := by
  induction tags generalizing column with
  | nil => simp [Layout.tokensFrom, included_textToken]
  | cons part more ih =>
    obtain ⟨before, g⟩ := part
    have hmore := ih (column + before.length + g.chars.length)
    simp only [Layout.tokensFrom, Token.included_append, included_textToken, Token.included_cons,
      List.nil_append, List.length_append, List.length_cons]
    split
    · simp only [List.length_singleton]; omega
    · simp only [List.length_nil]; omega

theorem length_included_tokens (line : Line) (l : Layout) :
    (Token.included (l.tokens line)).length ≤ l.tags.length := by
  have hfrom := length_included_tokensFrom line l.rest 1 l.tags
  unfold Layout.tokens
  split
  · next before g htags =>
    split
    · rw [htags]
      exact Token.length_included_le _
    · exact hfrom
  · exact hfrom

/-- A line has no more tags than characters. -/
theorem length_tags_le (l : Layout) : l.tags.length ≤ l.chars.length := by
  obtain ⟨tags, rest⟩ := l
  induction tags with
  | nil => exact Nat.zero_le _
  | cons part more ih =>
    obtain ⟨before, g⟩ := part
    rw [Layout.chars_cons]
    simp only [List.length_append, List.length_cons]
    simp only at ih
    omega

/-- The tokens of a line that can be scanned are those of a layout. -/
theorem exists_layout_of_scan {line : Line} {tokens : List Token} (h : line.scan = .ok tokens) :
    ∃ l : Layout, l.Valid ∧ l.chars = line.body ∧ tokens = l.tokens line := by
  obtain ⟨c, hc, rfl⟩ := map_eq_ok_iff.1 h
  obtain ⟨l, hl, hchars⟩ := Layout.exists_of_cuts hc
  have hcuts := Layout.cuts_chars hl line.number 1
  rw [← hchars] at hc
  rw [hc] at hcuts
  refine ⟨l, hl, hchars, ?_⟩
  rw [Except.ok.inj hcuts, Layout.tokens_cuts]

/-- So a line includes no more names than it is long. -/
theorem length_included_of_scan {line : Line} {tokens : List Token}
    (h : line.scan = .ok tokens) : (Token.included tokens).length ≤ line.body.length := by
  obtain ⟨l, -, hchars, rfl⟩ := exists_layout_of_scan h
  rw [← hchars]
  exact Nat.le_trans (length_included_tokens line l) (length_tags_le l)

theorem length_included_of_scanAll {lines : List (List Char × LineEnding)} {first : Nat}
    {tokens : List Token} (h : scanAll (numbered first lines) = .ok tokens) :
    (Token.included tokens).length ≤ (lines.flatMap withEnding).length := by
  induction lines generalizing first tokens with
  | nil =>
    obtain rfl := Except.ok.inj h
    exact Nat.zero_le _
  | cons line rest ih =>
    obtain ⟨body, ending⟩ := line
    rw [numbered, scanAll] at h
    split at h
    · cases h
    · next here hhere =>
      obtain ⟨later, hlater, rfl⟩ := map_eq_ok_iff.1 h
      have hbody := length_included_of_scan hhere
      have hrest := ih hlater
      simp only [Token.included_append, List.flatMap_cons, List.length_append, withEnding]
      simp only at hbody
      omega

/-! ## Names that are not empty -/

/-- A tag that includes has a name. -/
theorem Tag.value_token_ne {g : Tag} (h : g.Valid) (hkind : g.kind = .inclusion)
    (line column : Nat) : (g.token line column).value ≠ "" := by
  have htrim : Text.trim g.name ≠ [] := by
    cases g with
    | triple name => cases hkind
    | double content =>
      refine h.2.2.2.2.resolve_left fun hnothing => ?_
      rcases hnothing with hcomment | hpragma
      · rw [hkind] at hcomment
        cases hcomment
      · rw [hkind] at hpragma
        cases hpragma
  intro hempty
  exact htrim (String.ofList_eq_empty_iff.1 hempty)

theorem empty_not_mem_included_token {g : Tag} (h : g.Valid) (line column : Nat) :
    "" ∉ Token.included [g.token line column] := by
  rw [Token.included_cons, Token.included_nil, List.append_nil]
  split
  · next hkind =>
    exact fun hmem => Tag.value_token_ne h hkind line column (List.mem_singleton.1 hmem).symm
  · exact List.not_mem_nil

theorem empty_not_mem_included_tokensFrom (line : Line) (rest : List Char) (column : Nat)
    {tags : List (List Char × Tag)} (h : ∀ part ∈ tags, part.2.Valid) :
    "" ∉ Token.included (Layout.tokensFrom line rest column tags) := by
  induction tags generalizing column with
  | nil =>
    rw [Layout.tokensFrom, included_textToken]
    exact List.not_mem_nil
  | cons part more ih =>
    obtain ⟨before, g⟩ := part
    obtain ⟨hg, hmore⟩ := List.forall_mem_cons.1 h
    rw [Layout.tokensFrom, ← List.singleton_append, Token.included_append, Token.included_append,
      included_textToken, List.nil_append, List.mem_append]
    exact not_or.2 ⟨empty_not_mem_included_token hg _ _, ih _ hmore⟩

/-- No line includes the empty name. -/
theorem empty_not_mem_included_tokens (line : Line) {l : Layout} (h : l.Valid) :
    "" ∉ Token.included (l.tokens line) := by
  unfold Layout.tokens
  split
  · next before g htags =>
    split
    · have hg : (before, g) ∈ l.tags := htags ▸ List.mem_singleton_self _
      exact empty_not_mem_included_token (h.tag _ hg) _ _
    · exact empty_not_mem_included_tokensFrom line l.rest 1 h.tag
  · exact empty_not_mem_included_tokensFrom line l.rest 1 h.tag

theorem empty_not_mem_included_of_scanAll {lines : List (List Char × LineEnding)} {first : Nat}
    {tokens : List Token} (h : scanAll (numbered first lines) = .ok tokens) :
    "" ∉ Token.included tokens := by
  induction lines generalizing first tokens with
  | nil =>
    obtain rfl := Except.ok.inj h
    exact List.not_mem_nil
  | cons line rest ih =>
    obtain ⟨body, ending⟩ := line
    rw [numbered, scanAll] at h
    split at h
    · cases h
    · next here hhere =>
      obtain ⟨later, hlater, rfl⟩ := map_eq_ok_iff.1 h
      obtain ⟨l, hl, -, rfl⟩ := exists_layout_of_scan hhere
      rw [Token.included_append, List.mem_append]
      exact not_or.2 ⟨empty_not_mem_included_tokens _ hl, ih hlater⟩

end Line

namespace Template

/-- The names that a text includes, none if the text does not compile. -/
def namesIncluded (text : String) : List String :=
  match parse text with
  | .ok nodes => Node.allInclusions nodes
  | .error _ => []

/-- The names of a text that parses are those of its tree. -/
theorem namesIncluded_of_parse {text : String} {nodes : List Node} (h : parse text = .ok nodes) :
    namesIncluded text = Node.allInclusions nodes := by
  rw [namesIncluded, h]

/-- The names that a text includes are those in the tags of its lines, as far as it compiles. -/
theorem namesIncluded_prefix (text : String) :
    namesIncluded text = [] ∨ ∃ scanned, Line.scanAll (Line.split text.toList) = .ok scanned ∧
      namesIncluded text <+: Token.included scanned := by
  unfold namesIncluded parse
  cases hscan : Token.scan text.toList with
  | error e => exact .inl rfl
  | ok tokens =>
    obtain ⟨scanned, hlines, rfl⟩ := map_eq_ok_iff.1 hscan
    dsimp only
    cases hnodes : Node.ofTokens (scanned ++ [Token.finishAt _]) with
    | error e => exact .inl rfl
    | ok nodes =>
      have hincluded := Node.included_of_ofTokens hnodes
      have hfinish (number : Nat) : Token.included [Token.finishAt number] = [] := rfl
      rw [Token.included_append, hfinish, List.append_nil] at hincluded
      exact .inr ⟨scanned, hlines, hincluded⟩

/-- A text includes no more names than it has characters. -/
theorem length_namesIncluded_le (text : String) : (namesIncluded text).length ≤ text.length := by
  rcases namesIncluded_prefix text with hnone | ⟨scanned, hlines, hincluded⟩
  · rw [hnone]
    exact Nat.zero_le _
  · have hle := Line.length_included_of_scanAll hlines
    rw [Line.flatMap_bodies, String.length_toList] at hle
    exact Nat.le_trans hincluded.length_le hle

/-- No text includes a template without a name. -/
theorem empty_not_mem_namesIncluded (text : String) : "" ∉ namesIncluded text := by
  rcases namesIncluded_prefix text with hnone | ⟨scanned, hlines, hincluded⟩
  · rw [hnone]
    exact List.not_mem_nil
  · exact fun hmem => Line.empty_not_mem_included_of_scanAll hlines (hincluded.subset hmem)

end Template

end Mustache
