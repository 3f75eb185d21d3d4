import Mustache.Proofs.Template.Flatten
import Mustache.Proofs.Template.Inclusions
import Mustache.Proofs.Template.Page
import Mustache.Proofs.Template.Relocation

/-!
# Remarks on lines of their own

A comment or a pragma is a remark: it says nothing to whoever reads what is rendered. If it stands
alone on its line, the line has no token but that of the remark, and a text with that line and the
same text without it differ in this one token and in the numbers of the lines behind it. No section
is opened or closed by it, so both texts nest or neither does, and their nodes are the same up to
comments and the places where a text has been split.
-/

namespace Mustache

/-- Whether a token is a comment or a pragma. -/
def Token.IsRemark (t : Token) : Prop := t.kind = .comment ∨ t.kind = .pragma

/-- A remark opens and closes nothing. -/
theorem Token.IsRemark.isPlain {t : Token} (h : t.IsRemark) :
    t.kind ≠ .finish ∧ t.opensSection = false ∧ t.kind ≠ .sectionEnd := by
  unfold opensSection
  rcases h with hkind | hkind
  · rw [hkind]; decide
  · rw [hkind]; decide

namespace Node

/-! ## Nodes without their remarks -/

/-- Puts a node in front of nodes; a comment leaves no trace, and a text runs on into the next. -/
def onto (first : Node) (nodes : List Node) : List Node :=
  match first with
  | .text s => consText s nodes
  | .comment _ => nodes
  | other => other :: nodes

mutual

/-- A node without the comments in its body, and with neighbouring texts in its body joined. -/
def bare : Node → Node
  | .block inverted name body => .block inverted name (bareAll body)
  | other => other

/-- Nodes without comments at any depth, and with neighbouring texts joined. -/
def bareAll : List Node → List Node
  | [] => []
  | first :: rest => onto (bare first) (bareAll rest)

end

/-- Leaving out remarks joins no text that is in front. -/
theorem bareAll_consText (s : String) (nodes : List Node) :
    bareAll (consText s nodes) = consText s (bareAll nodes) := by
  unfold consText
  split
  · next t rest => exact consText_append s t (bareAll rest)
  · rfl

/-- What a token adds to nodes shows in the same way as in front of other nodes that show alike. -/
theorem bareAll_consToken_congr (t : Token) {nodes other : List Node}
    (h : bareAll nodes = bareAll other) :
    bareAll (consToken t nodes) = bareAll (consToken t other) := by
  unfold consToken
  split
  · rw [bareAll_consText, bareAll_consText, h]
  all_goals simp only [bareAll, bare, onto, h]

/-- A remark does not show. -/
theorem bareAll_consToken_of_isRemark {t : Token} (h : t.IsRemark) (nodes : List Node) :
    bareAll (consToken t nodes) = bareAll nodes := by
  unfold consToken
  rcases h with hkind | hkind
  · rw [hkind]; rfl
  · rw [hkind]

/-! ## A remark among marks -/

/-- In front of all marks a remark is read first. -/
theorem Spelled.cons_remark {x : Token} (hx : x.IsRemark) {marks : List (Token.Kind × String)}
    {nodes : List Node} (h : Spelled marks nodes) :
    ∃ nodes', Spelled (x.said :: marks) nodes' ∧ bareAll nodes' = bareAll nodes := by
  obtain ⟨hf, ho, he⟩ := hx.isPlain
  exact ⟨_, .plain hf ho he h, bareAll_consToken_of_isRemark hx nodes⟩

/-- Where a list is cut in two, the cut lies in front of a given element or behind it. -/
theorem cut_beside {α : Type} {front back before after : List α} {a : α}
    (h : front ++ a :: back = before ++ after) :
    (∃ later, front = before ++ later ∧ after = later ++ a :: back) ∨
      ∃ earlier, before = front ++ a :: earlier ∧ back = earlier ++ after := by
  rcases List.append_eq_append_iff.1 h with ⟨between, hbefore, hrest⟩ | hfront
  · rcases List.cons_eq_append_iff.1 hrest with ⟨rfl, hafter⟩ | ⟨earlier, rfl, hback⟩
    · refine .inl ⟨[], ?_, hafter⟩
      rw [hbefore, List.append_nil, List.append_nil]
    · exact .inr ⟨earlier, hbefore, hback⟩
  · exact .inl hfront

/-- Where marks spell nodes, they do so with a remark put in at any place, inside a section or not,
and the nodes show alike. -/
theorem Spelled.insert {x : Token} (hx : x.IsRemark) {marks : List (Token.Kind × String)}
    {nodes : List Node} (h : Spelled marks nodes) {before after : List (Token.Kind × String)}
    (hmarks : marks = before ++ after) :
    ∃ nodes', Spelled (before ++ x.said :: after) nodes' ∧ bareAll nodes' = bareAll nodes := by
  induction h generalizing before after with
  | nil =>
    obtain ⟨rfl, rfl⟩ := List.append_eq_nil_iff.1 hmarks.symm
    exact Spelled.nil.cons_remark hx
  | @plain marks nodes t hf ho he hnodes ih =>
    cases before with
    | nil =>
      obtain rfl : t.said :: marks = after := hmarks
      exact (Spelled.plain hf ho he hnodes).cons_remark hx
    | cons mark before =>
      obtain ⟨rfl, hrest⟩ := List.cons.inj hmarks
      obtain ⟨nodes', hspelled, hbare⟩ := ih hrest
      exact ⟨_, .plain hf ho he hspelled, bareAll_consToken_congr t hbare⟩
  | @nested inside marks body nodes t ho hbody hnodes ihbody ihnodes =>
    cases before with
    | nil =>
      obtain rfl : _ = after := hmarks
      exact (Spelled.nested ho hbody hnodes).cons_remark hx
    | cons mark before =>
      obtain ⟨rfl, hrest⟩ := List.cons.inj hmarks
      -- the remark falls into the body or behind the closing tag
      rcases cut_beside hrest with ⟨later, rfl, rfl⟩ | ⟨earlier, rfl, rfl⟩
      · obtain ⟨body', hspelled, hbare⟩ := ihbody rfl
        have hblock := Spelled.nested ho hspelled hnodes
        rw [List.append_assoc, List.cons_append] at hblock
        refine ⟨_, hblock, ?_⟩
        simp only [bareAll, bare, hbare]
      · obtain ⟨nodes', hspelled, hbare⟩ := ihnodes rfl
        have hblock := Spelled.nested ho hbody hspelled
        refine ⟨.block (t.kind == .invertedStart) t.value body :: nodes', ?_, ?_⟩
        · rw [List.cons_append, List.append_assoc, List.cons_append]
          exact hblock
        · simp only [bareAll, hbare]

end Node

namespace Nesting

/-- Tokens that get the same verdict whatever is open get it behind any tokens. -/
theorem checkFrom_append_congr {tokens more : List Token}
    (h : ∀ opened, checkFrom opened tokens = checkFrom opened more) (opened before : List Token) :
    checkFrom opened (before ++ tokens) = checkFrom opened (before ++ more) := by
  induction before generalizing opened with
  | nil => exact h opened
  | cons t ts ih =>
    rw [List.cons_append, List.cons_append]
    by_cases hf : t.kind = .finish
    · rw [checkFrom_of_finish hf, checkFrom_of_finish hf]
    · rw [checkFrom_cons hf, checkFrom_cons hf]
      exact congrArg _ (funext fun after => ih after)

/-- A remark changes nothing about nesting. -/
theorem checkFrom_insert {x : Token} (hx : x.IsRemark) (opened before after : List Token) :
    checkFrom opened (before ++ x :: after) = checkFrom opened (before ++ after) := by
  obtain ⟨hf, ho, he⟩ := hx.isPlain
  apply checkFrom_append_congr
  intro opened
  rw [checkFrom_cons hf, step_of_plain ho he]
  rfl

/-- The token of the end changes nothing about nesting. -/
theorem checkFrom_concat_finish {e : Token} (he : e.kind = .finish) (opened tokens : List Token) :
    checkFrom opened (tokens ++ [e]) = checkFrom opened tokens := by
  have hend : ∀ opened, checkFrom opened [e] = checkFrom opened [] :=
    fun opened => checkFrom_of_finish he opened []
  have happend := checkFrom_append_congr hend opened tokens
  rwa [List.append_nil] at happend

end Nesting

namespace Line

/-! ## Lines of two texts -/

theorem length_numbered (first : Nat) (lines : List (List Char × LineEnding)) :
    (numbered first lines).length = lines.length := by
  induction lines generalizing first with
  | nil => rfl
  | cons line rest ih => exact congrArg (· + 1) (ih (first + 1))

/-- Lines behind others are numbered on from them. -/
theorem numbered_append (first : Nat) (lines more : List (List Char × LineEnding)) :
    numbered first (lines ++ more) =
      numbered first lines ++ numbered (first + lines.length) more := by
  induction lines generalizing first with
  | nil => rfl
  | cons line rest ih =>
    have hlength : first + (line :: rest).length = first + 1 + rest.length := by
      rw [List.length_cons]
      omega
    rw [hlength]
    exact congrArg _ (ih (first + 1))

theorem ends_toList {a : String} (ha : a = "" ∨ a.toList.getLast? = some '\n') :
    a.toList = [] ∨ a.toList.getLast? = some '\n' := by
  rcases ha with rfl | hlast
  · exact .inl rfl
  · exact .inr hlast

/-- Behind a line break the lines of a text begin anew. -/
theorem bodies_append_of_ends {s : List Char} (hs : s = [] ∨ s.getLast? = some '\n')
    (t : List Char) : bodies (s ++ t) = bodies s ++ bodies t := by
  -- the induction takes the first line off
  induction hn : s.length using Nat.strongRecOn generalizing s with
  | ind n ih =>
  rcases exists_line s with hline | ⟨body, ending, s', rfl, hending, hbodies⟩
  · rcases hs with rfl | hlast
    · rfl
    · exact absurd (List.mem_of_getLast? hlast) hline
  · have hs' : s' = [] ∨ s'.getLast? = some '\n' := by
      by_cases hne : s' = []
      · exact .inl hne
      · refine .inr ?_
        have hlast := hs.resolve_left (by simp [hne])
        rw [List.getLast?_append, List.getLast?_eq_some_getLast hne] at hlast
        rw [List.getLast?_eq_some_getLast hne]
        exact hlast
    have hlt : s'.length < n := by
      rw [← hn]
      cases ending with
      | none => exact absurd rfl hending
      | lf => simp only [LineEnding.chars, List.length_append, List.length_singleton]; omega
      | crlf =>
        simp only [LineEnding.chars, List.length_append, List.length_cons, List.length_nil]
        omega
    have hwhole := hbodies []
    rw [List.append_nil, List.append_nil] at hwhole
    rw [hbodies t, hwhole, ih _ hlt hs' rfl]
    rfl

/-- Lines are scanned in two parts, and the first refusal ends both. -/
theorem scanAll_append (lines more : List Line) :
    scanAll (lines ++ more) =
      scanAll lines >>= fun tokens => (scanAll more).map (tokens ++ ·) := by
  induction lines with
  | nil =>
    show scanAll more = (scanAll more).map ([] ++ ·)
    cases scanAll more with
    | error e => rfl
    | ok tokens => rfl
  | cons line rest ih =>
    rw [List.cons_append, scanAll, scanAll, ih]
    cases line.scan with
    | error e => rfl
    | ok tokens =>
      dsimp only
      cases scanAll rest with
      | error e => rfl
      | ok later =>
        cases scanAll more with
        | error e => rfl
        | ok last => exact congrArg Except.ok (List.append_assoc ..).symm

/-! ## No token of the end -/

theorem Tag.kind_ne_finish (g : Tag) : g.kind ≠ .finish := by
  unfold kind
  split <;> simp

theorem kind_ne_finish_of_textToken {s : List Char} {line column : Nat} {t : Token}
    (h : t ∈ Layout.textToken s line column) : t.kind ≠ .finish := by
  unfold Layout.textToken at h
  split at h
  · exact absurd h List.not_mem_nil
  · obtain rfl := List.mem_singleton.1 h
    simp

theorem kind_ne_finish_of_tokensFrom {line : Line} {rest : List Char} {column : Nat}
    {tags : List (List Char × Tag)} {t : Token} (h : t ∈ Layout.tokensFrom line rest column tags) :
    t.kind ≠ .finish := by
  induction tags generalizing column with
  | nil => exact kind_ne_finish_of_textToken h
  | cons part more ih =>
    obtain ⟨before, g⟩ := part
    rw [Layout.tokensFrom, List.mem_append, List.mem_cons] at h
    rcases h with htext | rfl | hmore
    · exact kind_ne_finish_of_textToken htext
    · exact g.kind_ne_finish
    · exact ih hmore

/-- No line holds the end. -/
theorem kind_ne_finish_of_scan {line : Line} {tokens : List Token} (h : line.scan = .ok tokens)
    {t : Token} (ht : t ∈ tokens) : t.kind ≠ .finish := by
  obtain ⟨l, -, -, rfl⟩ := exists_layout_of_scan h
  unfold Layout.tokens at ht
  split at ht
  · next before g _ =>
    split at ht
    · obtain rfl := List.mem_singleton.1 ht
      exact g.kind_ne_finish
    · exact kind_ne_finish_of_tokensFrom ht
  · exact kind_ne_finish_of_tokensFrom ht

/-- No line has the token of the end. -/
theorem kind_ne_finish_of_scanAll {lines : List Line} {tokens : List Token}
    (h : scanAll lines = .ok tokens) {t : Token} (ht : t ∈ tokens) : t.kind ≠ .finish := by
  induction lines generalizing tokens with
  | nil =>
    obtain rfl := Except.ok.inj h
    exact absurd ht List.not_mem_nil
  | cons line rest ih =>
    rw [scanAll] at h
    split at h
    · cases h
    · next here hhere =>
      obtain ⟨later, hlater, rfl⟩ := map_eq_ok_iff.1 h
      rcases List.mem_append.1 ht with hmem | hmem
      · exact kind_ne_finish_of_scan hhere hmem
      · exact ih hlater hmem

end Line

end Mustache
