import Mustache.Proofs.Failing
import Mustache.Template.Scan

/-!
# The grammar of a line

A line is text and tags in turn. Written down as a grammar this needs no search: a text before a
tag has no doubled brace in it and does not run into the tag, a tag is what stands between two or
three braces, and the text behind the last tag opens no tag. Scanning accepts the lines of this
grammar and no others, each line has one layout, and the tokens are read off from it.

The first part relates the search for two characters to what it finds, the second does so for the
end of a tag, and the third follows the layout from the left.
-/

namespace Mustache

namespace Line

/-! ## What a search for two neighbours finds -/

/-- Whether `a` is nowhere followed by `b`. -/
def Apart (a b : Char) (s : List Char) : Prop := ¬ [a, b] <:+: s

theorem apart_nil (a b : Char) : Apart a b [] := by
  simp [Apart]

theorem apart_singleton (a b c : Char) : Apart a b [c] := by
  intro h
  have hle := h.length_le
  simp at hle

/-- Two characters never meet where the first one does not stand. -/
theorem apart_of_not_mem {a b : Char} {s : List Char} (h : a ∉ s) : Apart a b s := by
  intro hpair
  exact h (hpair.subset List.mem_cons_self)

/-- They do not meet at the front nor further on. -/
theorem apart_cons_cons {a b c d : Char} {s : List Char} :
    Apart a b (c :: d :: s) ↔ ¬ (c = a ∧ d = b) ∧ Apart a b (d :: s) := by
  rw [Apart, Apart, List.infix_cons_iff, List.cons_prefix_cons, List.cons_prefix_cons]
  simp [eq_comm]

theorem apart_cons_of_ne {a b c : Char} {s : List Char} (hc : c ≠ a) :
    Apart a b (c :: s) ↔ Apart a b s := by
  cases s with
  | nil => simp [apart_nil, apart_singleton]
  | cons d s => simp [apart_cons_cons, hc]

/-- A text that `a` may follow without becoming a pair does not end in `a`. -/
theorem apart_append_singleton {a : Char} {s : List Char} :
    Apart a a (s ++ [a]) ↔ Apart a a s ∧ s.getLast? ≠ some a := by
  induction s with
  | nil => simp [apart_nil, apart_singleton]
  | cons c s ih =>
    cases s with
    | nil => simp [apart_cons_cons, apart_singleton]
    | cons d s =>
      simp only [List.cons_append] at ih ⊢
      rw [apart_cons_cons, ih, apart_cons_cons, and_assoc, List.getLast?_cons_cons]

/-- At the end of a text another character than `b` makes no pair. -/
theorem apart_concat_of_ne {a b c : Char} {s : List Char} (hc : c ≠ b) :
    Apart a b (s ++ [c]) ↔ Apart a b s := by
  rw [Apart, Apart, List.infix_concat_iff, not_or, and_iff_right]
  rintro ⟨before, h⟩
  have hlast := congrArg List.getLast? h
  simp at hlast
  exact hc hlast.symm

/-- A text with a character in front still does not end in another one. -/
theorem getLast?_cons_ne {a c : Char} {s : List Char} (hc : c ≠ a) (hs : s.getLast? ≠ some a) :
    (c :: s).getLast? ≠ some a := by
  rw [List.getLast?_cons]
  cases hlast : s.getLast? with
  | none => simpa using hc
  | some d =>
    rw [hlast] at hs
    simpa using hs

/-- A pair in a part of a text is a pair of the text. -/
theorem Apart.of_isInfix {a b : Char} {s t : List Char} (h : Apart a b t) (hs : s <:+: t) :
    Apart a b s := fun hpair => h (hpair.trans hs)

/-- There is no cut exactly where the two never meet. -/
theorem cut_eq_none_iff {a b : Char} {s : List Char} : cut a b s = none ↔ Apart a b s := by
  fun_induction cut a b s with
  | case1 => simp [apart_nil]
  | case2 c => simp [apart_singleton]
  | case3 c d s hcd => simp [apart_cons_cons, hcd]
  | case4 c d s hcd ih => rw [Option.map_eq_none_iff, ih, apart_cons_cons, and_iff_right hcd]

instance (a b : Char) (s : List Char) : Decidable (Apart a b s) :=
  decidable_of_iff _ cut_eq_none_iff

/-- A search finds the first place. -/
theorem apart_of_cut {a b : Char} {s before after : List Char}
    (h : cut a b s = some (before, after)) : Apart a b (before ++ [a]) := by
  fun_induction cut a b s generalizing before after with
  | case1 => simp at h
  | case2 => simp at h
  | case3 c d s hcd =>
    obtain ⟨rfl, rfl⟩ : [] = before ∧ s = after := by simpa using h
    exact apart_singleton a b a
  | case4 c d s hcd ih =>
    obtain ⟨⟨before', after'⟩, hcut, heq⟩ := Option.map_eq_some_iff.1 h
    obtain ⟨rfl, rfl⟩ := Prod.mk.inj heq
    have hhead : (before' ++ [a]).head? = some d := by
      have hs := congrArg List.head? (eq_of_cut hcut)
      cases before' <;> simpa [eq_comm] using hs
    obtain ⟨t, ht⟩ := List.head?_eq_some_iff.1 hhead
    rw [List.cons_append, ht, apart_cons_cons, ← ht]
    exact ⟨hcd, ih hcut⟩

/-- What stands before a pair without being part of an earlier one is found. -/
theorem cut_append {a b : Char} {before : List Char} (h : Apart a b (before ++ [a]))
    (after : List Char) : cut a b (before ++ a :: b :: after) = some (before, after) := by
  induction before with
  | nil => simp [cut]
  | cons c before ih =>
    obtain ⟨d, t, ht⟩ := List.exists_cons_of_ne_nil (show before ++ [a] ≠ [] by simp)
    rw [List.cons_append, ht, apart_cons_cons, ← ht] at h
    have hrest : before ++ a :: b :: after = d :: (t ++ b :: after) := by
      rw [← List.cons_append, ← ht, List.append_assoc, List.singleton_append]
    have hcut := ih h.2
    rw [hrest] at hcut
    rw [List.cons_append, hrest, cut, if_neg h.1, hcut]
    rfl

/-! ## Tags as they are written -/

/-- A tag between its braces. -/
inductive Tag
  /-- Between three braces. -/
  | triple (name : List Char)
  /-- Between two braces. -/
  | double (content : List Char)
deriving DecidableEq, Repr

namespace Tag

/-- The characters of a tag. -/
def chars : Tag → List Char
  | .triple name => ['{', '{', '{'] ++ name ++ ['}', '}', '}']
  | .double content => ['{', '{'] ++ content ++ ['}', '}']

/-- What a tag does, told by its first character. -/
def kind : Tag → Token.Kind
  | .triple _ => .unescaped
  | .double ('!' :: _) => .comment
  | .double ('%' :: _) => .pragma
  | .double ('#' :: _) => .sectionStart
  | .double ('^' :: _) => .invertedStart
  | .double ('/' :: _) => .sectionEnd
  | .double ('>' :: _) => .inclusion
  | .double ('&' :: _) => .unescaped
  | .double _ => .variable

/-- The name in a tag before it is trimmed. -/
def name : Tag → List Char
  | .triple name => name
  | .double content => if (double content).kind = .variable then content else content.tail

/-- Whether a tag may do without a name. -/
def namesNothing (g : Tag) : Prop := g.kind = .comment ∨ g.kind = .pragma

/-- The tags of the grammar. -/
def Valid : Tag → Prop
  | .triple name => Apart '}' '}' name ∧ name.getLast? ≠ some '}' ∧ Text.trim name ≠ []
  | .double content =>
    content ≠ [] ∧ content.head? ≠ some '{' ∧ Apart '}' '}' content ∧
      content.getLast? ≠ some '}' ∧
      ((double content).namesNothing ∨ Text.trim (double content).name ≠ [])

instance (g : Tag) : Decidable g.namesNothing :=
  inferInstanceAs (Decidable (_ ∨ _))

instance : DecidablePred Valid
  | .triple _ => inferInstanceAs (Decidable (_ ∧ _))
  | .double _ => inferInstanceAs (Decidable (_ ∧ _))

/-- The token of a tag at a place. -/
def token (g : Tag) (line column : Nat) : Token :=
  ⟨g.kind, String.ofList (Text.trim g.name), line, column⟩

/-- What stands between the outer two braces on either side. -/
def content : Tag → List Char
  | .triple name => '{' :: (name ++ ['}'])
  | .double content => content

theorem chars_eq (g : Tag) : g.chars = '{' :: '{' :: (g.content ++ ['}', '}']) := by
  cases g <;> simp [chars, content]

/-- A tag is four braces longer than what it holds. -/
theorem length_chars (g : Tag) : g.chars.length = g.content.length + 4 := by
  rw [chars_eq]
  simp

/-- The content tells a tag between three braces from one between two. -/
theorem eq_of_content_eq {g g' : Tag} (h : g.Valid) (h' : g'.Valid)
    (heq : g.content = g'.content) : g = g' := by
  cases g with
  | triple name =>
    cases g' with
    | triple name' => simpa [content] using heq
    | double content' => exact absurd (congrArg List.head? heq).symm h'.2.1
  | double content =>
    cases g' with
    | triple name' => exact absurd (congrArg List.head? heq) h.2.1
    | double content' => exact congrArg Tag.double heq

/-- The end of a tag is found. -/
theorem takeTag_append {g : Tag} (h : g.Valid) (s : List Char) :
    takeTag (g.content ++ '}' :: '}' :: s) = some (g.content, s) := by
  cases g with
  | triple name =>
    obtain ⟨happart, hlast, -⟩ := h
    have hinside : Apart '}' '}' (('{' :: name) ++ ['}']) := by
      rw [List.cons_append, apart_cons_of_ne (by decide), apart_append_singleton]
      exact ⟨happart, hlast⟩
    -- the search ends at the first two of the three braces, and the third is taken along
    have hcut := cut_append hinside ('}' :: s)
    have hwritten : content (.triple name) ++ '}' :: '}' :: s =
        ('{' :: name) ++ '}' :: '}' :: '}' :: s := by simp [content]
    rw [takeTag, hwritten, hcut]
    rfl
  | double content =>
    obtain ⟨-, hhead, happart, hlast, -⟩ := h
    have hcut := cut_append (apart_append_singleton.2 ⟨happart, hlast⟩) s
    rw [takeTag, Tag.content, hcut]
    exact if_neg hhead

/-- No character marks a tag as the kind that tags have without a mark. -/
theorem ofSigil_ne_variable (c : Char) : Token.Kind.ofSigil c ≠ some .variable := by
  unfold Token.Kind.ofSigil
  split <;> simp

theorem kind_double_cons (c : Char) (s : List Char) :
    (double (c :: s)).kind = (Token.Kind.ofSigil c).getD .variable := by
  unfold Token.Kind.ofSigil
  split <;> simp_all [kind]

end Tag

/-- A tag makes a token exactly when a name is left of it without the blanks. -/
theorem ofNamed_eq_ok_iff {kind : Token.Kind} {name content : List Char} {line column : Nat}
    {t : Token} : Token.ofNamed kind name content line column = .ok t ↔
      Text.trim name ≠ [] ∧ ⟨kind, String.ofList (Text.trim name), line, column⟩ = t := by
  unfold Token.ofNamed
  split
  · next h => simp [h]
  · next h => simpa using fun _ => h

namespace Tag

/-- A tag between two braces is classified by its first character. -/
theorem ofTag_double {content : List Char} (hne : content ≠ []) (hhead : content.head? ≠ some '{')
    {line column : Nat} {t : Token} :
    Token.ofTag content line column = .ok t ↔
      ((double content).namesNothing ∨ Text.trim (double content).name ≠ []) ∧
        (double content).token line column = t := by
  obtain ⟨c, s, rfl⟩ := List.exists_cons_of_ne_nil hne
  have hc : c ≠ '{' := by simpa using hhead
  unfold Token.ofTag
  split
  · next heq => cases heq
  · next heq => exact absurd (List.cons.inj heq).1 hc
  · next c' s' _ heq =>
    obtain ⟨rfl, rfl⟩ := List.cons.inj heq
    split
    -- without a sigil all of the content is the name
    · next hsigil =>
      have hkind : (double (c :: s)).kind = .variable := by rw [kind_double_cons, hsigil]; rfl
      simp [ofNamed_eq_ok_iff, namesNothing, token, name, hkind]
    -- comments and pragmas name nothing, so they are tokens whatever they hold
    · next hsigil =>
      have hkind : (double (c :: s)).kind = .comment := by rw [kind_double_cons, hsigil]; rfl
      simp [namesNothing, token, name, hkind]
    · next hsigil =>
      have hkind : (double (c :: s)).kind = .pragma := by rw [kind_double_cons, hsigil]; rfl
      simp [namesNothing, token, name, hkind]
    -- every other sigil stands in front of a name
    · next named hcomment hpragma hsigil =>
      have hkind : (double (c :: s)).kind = named := by rw [kind_double_cons, hsigil]; rfl
      have hvariable : named ≠ .variable := fun h => ofSigil_ne_variable c (h ▸ hsigil)
      have hnames : ¬ (double (c :: s)).namesNothing := by
        rw [namesNothing, hkind]
        exact not_or.2 ⟨hcomment, hpragma⟩
      rw [or_iff_right hnames, ofNamed_eq_ok_iff, token, name, hkind, if_neg hvariable,
        List.tail_cons]

/-- A valid tag has its token. -/
theorem ofTag_content {g : Tag} (h : g.Valid) (line column : Nat) :
    Token.ofTag g.content line column = .ok (g.token line column) := by
  cases g with
  | triple name =>
    simp only [content, Token.ofTag, List.getLast?_concat, ↓reduceIte, List.dropLast_concat]
    exact ofNamed_eq_ok_iff.2 ⟨h.2.2, rfl⟩
  | double content =>
    obtain ⟨hne, hhead, -, -, hname⟩ := h
    exact (ofTag_double hne hhead).2 ⟨hname, rfl⟩

/-- What is read as a tag is a valid tag. -/
theorem exists_of_takeTag {s content rest : List Char} {line column : Nat} {t : Token}
    (htake : takeTag s = some (content, rest)) (htoken : Token.ofTag content line column = .ok t) :
    ∃ g : Tag, g.Valid ∧ g.content = content ∧ s = content ++ '}' :: '}' :: rest := by
  unfold takeTag at htake
  split at htake
  · cases htake
  · next inside after hcut =>
    have happart := apart_of_cut hcut
    obtain rfl := eq_of_cut hcut
    split at htake
    · next hhead =>
      -- three braces opened the tag; whether a third one closes it decides
      obtain ⟨name, rfl⟩ := List.head?_eq_some_iff.1 hhead
      rw [List.cons_append, apart_cons_of_ne (by decide), apart_append_singleton] at happart
      split at htake
      · obtain ⟨rfl, rfl⟩ := Prod.mk.inj (Option.some.inj htake)
        simp only [List.cons_append, Token.ofTag, List.getLast?_concat, ↓reduceIte,
          List.dropLast_concat] at htoken
        have hname := (ofNamed_eq_ok_iff.1 htoken).1
        exact ⟨.triple name, ⟨happart.1, happart.2, hname⟩, rfl, by simp⟩
      · obtain ⟨rfl, rfl⟩ := Prod.mk.inj (Option.some.inj htake)
        rw [Token.ofTag, if_neg happart.2] at htoken
        cases htoken
    · next hhead =>
      obtain ⟨rfl, rfl⟩ := Prod.mk.inj (Option.some.inj htake)
      rw [apart_append_singleton] at happart
      have hne : inside ≠ [] := by rintro rfl; cases htoken
      have hname := ((ofTag_double hne hhead).1 htoken).1
      exact ⟨.double inside, ⟨hne, hhead, happart.1, happart.2, hname⟩, rfl, rfl⟩

end Tag

/-! ## Layouts -/

/-- A line laid out: texts with the tags behind them, and the text behind the last tag. -/
structure Layout where
  tags : List (List Char × Tag)
  rest : List Char
deriving DecidableEq, Repr

namespace Layout

/-- The characters of a layout. -/
def chars (l : Layout) : List Char :=
    l.tags.flatMap (fun (before, g) => before ++ g.chars) ++ l.rest

/-- The texts that may stand before a tag. -/
def MayPrecedeTag (s : List Char) : Prop :=
  Apart '{' '{' s ∧ Apart '}' '}' s ∧ s.getLast? ≠ some '{'

/-- What a text ends with may precede a tag if the text may. -/
theorem MayPrecedeTag.of_append {s t : List Char} (h : MayPrecedeTag (s ++ t)) :
    MayPrecedeTag t := by
  obtain ⟨hopen, hclose, hlast⟩ := h
  have hpart : t <:+: s ++ t := (List.suffix_append s t).isInfix
  refine ⟨hopen.of_isInfix hpart, hclose.of_isInfix hpart, fun ht => hlast ?_⟩
  rw [List.getLast?_append, ht]
  rfl

/-- The layouts of the grammar. -/
structure Valid (l : Layout) : Prop where
  before : ∀ part ∈ l.tags, MayPrecedeTag part.1
  tag : ∀ part ∈ l.tags, part.2.Valid
  rest : Apart '{' '{' l.rest

instance : DecidablePred MayPrecedeTag := fun _ => inferInstanceAs (Decidable (_ ∧ _))

instance (l : Layout) : Decidable l.Valid :=
  decidable_of_iff ((∀ part ∈ l.tags, MayPrecedeTag part.1) ∧ (∀ part ∈ l.tags, part.2.Valid) ∧
    Apart '{' '{' l.rest) ⟨fun h => ⟨h.1, h.2.1, h.2.2⟩, fun h => ⟨h.before, h.tag, h.rest⟩⟩

/-- The token of a text at a place, if there is any text. -/
def textToken (s : List Char) (line column : Nat) : List Token :=
  if s = [] then [] else [⟨.text, String.ofList s, line, column⟩]

/-- The tokens of texts and tags in turn from a column on, each at the column where it starts. -/
def tokensFrom (line : Line) (rest : List Char) : Nat → List (List Char × Tag) → List Token
  | column, [] => textToken (rest ++ line.ending.chars) line.number column
  | column, (before, g) :: more =>
    textToken before line.number column ++ g.token line.number (column + before.length) ::
      tokensFrom line rest (column + before.length + g.chars.length) more

/-- The tokens of a layout. A tag alone among blanks is the only token of its line. -/
def tokens (line : Line) (l : Layout) : List Token :=
  match l.tags with
  | [(before, g)] =>
    if before.all Text.isBlank && l.rest.all Text.isBlank then
      [g.token line.number (1 + before.length)]
    else tokensFrom line l.rest 1 l.tags
  | _ => tokensFrom line l.rest 1 l.tags

/-! ## Scanning follows the layout -/

theorem cuts_of_none {s : List Char} (hcut : cut '{' '{' s = none) (line column : Nat) :
    cuts line column s = .ok ⟨[], s, column⟩ := by
  rw [cuts]
  split
  · rfl
  · next heq => rw [hcut] at heq; cases heq

/-- The first tag of a line and the rest of it. -/
theorem cuts_of_some {s before opened : List Char} (hcut : cut '{' '{' s = some (before, opened))
    (line column : Nat) :
    cuts line column s =
      match cut '}' '}' before, takeTag opened with
      | some (stray, _), _ => .error (.atLine (.strayClose (column + stray.length)) line)
      | none, none => .error (.atLine (.unclosedTag (column + before.length)) line)
      | none, some (content, rest) => do
        let token ← Token.ofTag content line (column + before.length)
        let c ← cuts line (column + before.length + content.length + 4) rest
        return { c with tags := ⟨before, column, token⟩ :: c.tags } := by
  rw [cuts]
  split
  · next heq => rw [hcut] at heq; cases heq
  · next before' opened' heq =>
    obtain ⟨rfl, rfl⟩ : before = before' ∧ opened = opened' := by simpa [hcut] using heq
    split
    -- closing braces before the tag are refused first
    · next hstray => rw [hstray]
    · next hstray =>
      rw [hstray]
      split
      -- then a tag that is not closed
      · next htag => rw [htag]
      · next content rest htag =>
        simp only [htag]
        cases Token.ofTag content line (column + before.length) with
        | error e => rfl
        | ok token =>
          simp only [bind, Except.bind]
          cases cuts line (column + before.length + content.length + 4) rest <;> rfl

/-- The cuts of a layout from a column on. -/
def cutsFrom (line : Nat) (rest : List Char) : Nat → List (List Char × Tag) → Cuts
  | column, [] => ⟨[], rest, column⟩
  | column, (before, g) :: more =>
    let c := cutsFrom line rest (column + before.length + g.chars.length) more
    { c with tags := ⟨before, column, g.token line (column + before.length)⟩ :: c.tags }

/-- A layout spells the text before its first tag, the tag, and the rest. -/
theorem chars_cons (before : List Char) (g : Tag) (more : List (List Char × Tag))
    (rest : List Char) :
    chars ⟨(before, g) :: more, rest⟩ =
      before ++ '{' :: '{' :: (g.content ++ '}' :: '}' :: chars ⟨more, rest⟩) := by
  simp [chars, Tag.chars_eq]

/-- The parts of a valid layout are valid. -/
theorem Valid.of_cons {before : List Char} {g : Tag} {more : List (List Char × Tag)}
    {rest : List Char} (h : Valid ⟨(before, g) :: more, rest⟩) :
    MayPrecedeTag before ∧ g.Valid ∧ Valid ⟨more, rest⟩ := by
  refine ⟨h.before _ List.mem_cons_self, h.tag _ List.mem_cons_self, ?_, ?_, h.rest⟩
  · exact fun part hpart => h.before part (List.mem_cons_of_mem _ hpart)
  · exact fun part hpart => h.tag part (List.mem_cons_of_mem _ hpart)

theorem Valid.cons {before : List Char} {g : Tag} {l : Layout} (hbefore : MayPrecedeTag before)
    (hg : g.Valid) (hl : l.Valid) : Valid ⟨(before, g) :: l.tags, l.rest⟩ := by
  refine ⟨?_, ?_, hl.rest⟩
  · exact List.forall_mem_cons.2 ⟨hbefore, hl.before⟩
  · exact List.forall_mem_cons.2 ⟨hg, hl.tag⟩

theorem cut_chars_nil {rest : List Char} (h : Valid ⟨[], rest⟩) :
    cut '{' '{' (chars ⟨[], rest⟩) = none := cut_eq_none_iff.2 h.rest

/-- The first search in a layout finds the text before its first tag. -/
theorem cut_chars_cons {before : List Char} (h : MayPrecedeTag before) (g : Tag)
    (more : List (List Char × Tag)) (rest : List Char) :
    cut '{' '{' (chars ⟨(before, g) :: more, rest⟩) =
      some (before, g.content ++ '}' :: '}' :: chars ⟨more, rest⟩) := by
  rw [chars_cons]
  exact cut_append (apart_append_singleton.2 ⟨h.1, h.2.2⟩) _

/-- A line of the grammar is cut at the tags of its layout. -/
theorem cuts_chars {tags : List (List Char × Tag)} {rest : List Char} (h : Valid ⟨tags, rest⟩)
    (line column : Nat) :
    cuts line column (chars ⟨tags, rest⟩) = .ok (cutsFrom line rest column tags) := by
  induction tags generalizing column with
  | nil => exact cuts_of_none (cut_chars_nil h) line column
  | cons part more ih =>
    obtain ⟨before, g⟩ := part
    obtain ⟨hbefore, hg, hmore⟩ := h.of_cons
    have hstray : cut '}' '}' before = none := cut_eq_none_iff.2 hbefore.2.1
    have htoken := Tag.ofTag_content hg line (column + before.length)
    have hcuts := ih hmore (column + before.length + g.content.length + 4)
    rw [cuts_of_some (cut_chars_cons hbefore g more rest), hstray, Tag.takeTag_append hg]
    simp only [htoken, hcuts, bind, Except.bind, cutsFrom, Tag.length_chars]
    rfl

/-- What is cut at its tags has a layout. -/
theorem exists_of_cuts {line column : Nat} {s : List Char} {c : Cuts}
    (h : cuts line column s = .ok c) : ∃ l : Layout, l.Valid ∧ l.chars = s := by
  induction hn : s.length using Nat.strongRecOn generalizing s column c with
  | ind n ih =>
  cases hcut : cut '{' '{' s with
  | none =>
    exact ⟨⟨[], s⟩, ⟨by simp, by simp, cut_eq_none_iff.1 hcut⟩, rfl⟩
  | some found =>
    obtain ⟨before, opened⟩ := found
    rw [cuts_of_some hcut] at h
    split at h
    · cases h
    · cases h
    · next content rest hstray htake =>
      obtain ⟨token, htoken, h⟩ := bind_eq_ok_iff.1 h
      obtain ⟨c', hrest, -⟩ := bind_eq_ok_iff.1 h
      -- the text and the tag that were found, and the layout of what is behind them
      have happart := apart_append_singleton.1 (apart_of_cut hcut)
      have hbefore : MayPrecedeTag before := ⟨happart.1, cut_eq_none_iff.1 hstray, happart.2⟩
      obtain ⟨g, hg, hcontent, hopened⟩ := Tag.exists_of_takeTag htake htoken
      have hs : s = before ++ '{' :: '{' :: (g.content ++ '}' :: '}' :: rest) := by
        rw [eq_of_cut hcut, hopened, hcontent]
      have hlt : rest.length < n := by
        rw [← hn, hs]
        simp only [List.length_append, List.length_cons]
        omega
      obtain ⟨l, hl, hchars⟩ := ih _ hlt hrest rfl
      refine ⟨⟨(before, g) :: l.tags, l.rest⟩, hl.cons hbefore hg, ?_⟩
      rw [chars_cons, hs, hchars]

/-- A line has at most one layout: the first search gives the first text, and the search for the
end of a tag gives the tag. -/
theorem Valid.unique {tags tags' : List (List Char × Tag)} {rest rest' : List Char}
    (h : Valid ⟨tags, rest⟩) (h' : Valid ⟨tags', rest'⟩)
    (heq : chars ⟨tags, rest⟩ = chars ⟨tags', rest'⟩) : tags = tags' ∧ rest = rest' := by
  induction tags generalizing tags' with
  | nil =>
    cases tags' with
    | nil => exact ⟨rfl, heq⟩
    | cons part' more' =>
      obtain ⟨hbefore', -, -⟩ := h'.of_cons
      have hcut := cut_chars_cons hbefore' part'.2 more' rest'
      rw [← heq, cut_chars_nil h] at hcut
      cases hcut
  | cons part more ih =>
    obtain ⟨before, g⟩ := part
    obtain ⟨hbefore, hg, hmore⟩ := h.of_cons
    have hcut := cut_chars_cons hbefore g more rest
    cases tags' with
    | nil =>
      rw [heq, cut_chars_nil h'] at hcut
      cases hcut
    | cons part' more' =>
      obtain ⟨before', g'⟩ := part'
      obtain ⟨hbefore', hg', hmore'⟩ := h'.of_cons
      rw [heq, cut_chars_cons hbefore' g' more' rest'] at hcut
      obtain ⟨rfl, hopened⟩ := Prod.mk.inj (Option.some.inj hcut)
      -- the texts before the first tags are the same, so the same tag is taken from both
      have htake := Tag.takeTag_append hg (chars ⟨more, rest⟩)
      rw [← hopened, Tag.takeTag_append hg'] at htake
      obtain ⟨hcontent, hrest⟩ := Prod.mk.inj (Option.some.inj htake)
      obtain ⟨rfl, rfl⟩ := ih hmore hmore' hrest.symm
      rw [Tag.eq_of_content_eq hg hg' hcontent.symm]
      exact ⟨rfl, rfl⟩

/-! ## The tokens of a layout -/

theorem ofText_eq_textToken (s : List Char) (line column : Nat) :
    Token.ofText s line column = textToken s line column := by
  cases s <;> rfl

/-- The tokens of what was cut are those of the layout. -/
theorem tokens_cutsFrom (line : Line) (tags : List (List Char × Tag)) (rest : List Char)
    (column : Nat) :
    ((cutsFrom line.number rest column tags).tags.flatMap fun tag =>
        Token.ofText tag.before line.number tag.beforeColumn ++ [tag.token]) ++
      Token.ofText ((cutsFrom line.number rest column tags).rest ++ line.ending.chars) line.number
        (cutsFrom line.number rest column tags).restColumn =
    tokensFrom line rest column tags := by
  induction tags generalizing column with
  | nil => simp [cutsFrom, tokensFrom, ofText_eq_textToken]
  | cons part more ih =>
    obtain ⟨before, g⟩ := part
    rw [cutsFrom, tokensFrom, ← ih (column + before.length + g.chars.length)]
    simp [ofText_eq_textToken]

/-- The tokens of a line are read off from its layout. -/
theorem tokens_cuts (line : Line) (l : Layout) :
    (cutsFrom line.number l.rest 1 l.tags).tokens line = l.tokens line := by
  have hfrom := tokens_cutsFrom line l.tags l.rest 1
  obtain ⟨tags, rest⟩ := l
  match tags with
  | [] => exact hfrom
  | [(before, g)] =>
    rw [Cuts.tokens, tokens]
    split
    · next halone => exact (if_pos halone).symm
    · next halone => exact hfrom.trans (if_neg halone).symm
  | (before, g) :: part :: more => exact hfrom

end Layout

/-- Scanning accepts a line exactly if it has a layout, and gives the tokens of that layout; a line
has no other layout. -/
theorem scan_eq_ok_iff_layout (line : Line) :
    (∀ tokens, line.scan = .ok tokens ↔
      ∃ l : Layout, l.Valid ∧ l.chars = line.body ∧ l.tokens line = tokens) ∧
    ∀ l l' : Layout, l.Valid → l'.Valid → l.chars = line.body → l'.chars = line.body → l = l' := by
  constructor
  · intro tokens
    rw [scan, map_eq_ok_iff]
    constructor
    · rintro ⟨c, hc, rfl⟩
      obtain ⟨l, hl, hchars⟩ := Layout.exists_of_cuts hc
      have hcuts := Layout.cuts_chars hl line.number 1
      rw [← hchars, hcuts] at hc
      obtain rfl := Except.ok.inj hc
      exact ⟨l, hl, hchars, (Layout.tokens_cuts line l).symm⟩
    · rintro ⟨l, hl, hchars, rfl⟩
      exact ⟨_, hchars ▸ Layout.cuts_chars hl line.number 1, Layout.tokens_cuts line l⟩
  · intro l l' hl hl' hchars hchars'
    obtain ⟨htags, hrest⟩ := hl.unique hl' (hchars.trans hchars'.symm)
    cases l
    cases l'
    exact congr (congrArg Layout.mk htags) hrest

/-- A layout with more braces in a row than its tags need. -/
def braceRuns : Layout :=
  ⟨[([' ', '}'], .triple ['a']), (['}'], .double ['#', 'b'])], ['}']⟩

/-- Braces in a row belong to the tag on their left only as far as it needs them. -/
theorem scan_of_braceRuns :
    braceRuns.Valid ∧
    (⟨3, braceRuns.chars, .lf⟩ : Line).scan = .ok
      [⟨.text, " \x7d", 3, 1⟩, ⟨.unescaped, "a", 3, 3⟩, ⟨.text, "\x7d", 3, 10⟩,
        ⟨.sectionStart, "b", 3, 11⟩, ⟨.text, "\x7d\n", 3, 17⟩] ∧
    ∀ l : Layout, l.Valid → l.chars = braceRuns.chars → l = braceRuns := by
  have hvalid : braceRuns.Valid := by decide
  obtain ⟨haccepted, hunique⟩ := scan_eq_ok_iff_layout ⟨3, braceRuns.chars, .lf⟩
  refine ⟨hvalid, (haccepted _).2 ⟨braceRuns, hvalid, rfl, rfl⟩, ?_⟩
  intro l hl hchars
  exact hunique l braceRuns hl hvalid hchars rfl

end Line

end Mustache
