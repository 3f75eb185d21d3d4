import Mustache.Proofs.Template.Print
import Mustache.Proofs.Template.Spelling

/-!
# Pages

A page is a text of several lines given by the layouts of its lines. No line of a page has just one
tag, so none of its tags takes the blanks and the line break around it along, and what the tokens of
the page say is read off from the layouts.

A page is built from its end. Tags go in front of it on its first line. A text that is put in front
is cut at its line breaks, and what is behind the last of them joins the first line of the page; if
a tag begins that line, the pieces of the text are tokens of their own.
-/

namespace Mustache

namespace Line

/-! ## Lines of a text with something in front -/

/-- A character that ends no line goes in front of the first one. -/
theorem bodies_cons {c : Char} {s : List Char} (hc : c ≠ '\n')
    (hreturn : c = '\r' → s.head? ≠ some '\n') : bodies (c :: s) = pushFront c (bodies s) := by
  rw [bodies]
  · rintro s' rfl rfl
    exact hreturn rfl rfl
  · exact hc

/-- Puts characters in front of the first line. -/
def pushAll (b : List Char) : List (List Char × LineEnding) → List (List Char × LineEnding)
  | [] => [(b, .none)]
  | (body, ending) :: rest => (b ++ body, ending) :: rest

/-- Characters without a line feed in front of a text are part of its first line. -/
theorem bodies_append {b s : List Char} (hne : b ≠ []) (hb : '\n' ∉ b)
    (hreturn : b.getLast? = some '\r' → s.head? ≠ some '\n') :
    bodies (b ++ s) = pushAll b (bodies s) := by
  induction b with
  | nil => exact absurd rfl hne
  | cons c b ih =>
    have hc : c ≠ '\n' := (List.ne_of_not_mem_cons hb).symm
    have hb : '\n' ∉ b := List.not_mem_of_not_mem_cons hb
    cases b with
    | nil =>
      rw [List.singleton_append, bodies_cons hc fun h => hreturn (by rw [h]; rfl)]
      cases bodies s <;> rfl
    | cons d b =>
      have hd : d ≠ '\n' := fun h => hb (h ▸ List.mem_cons_self)
      rw [List.cons_append, bodies_cons hc (by simpa using fun _ => hd),
        ih (by simp) hb (by rwa [List.getLast?_cons_cons] at hreturn)]
      cases bodies s <;> rfl

/-- A text with a line feed in it begins with a whole line, whatever follows the text. -/
theorem exists_line (t : List Char) :
    '\n' ∉ t ∨ ∃ body ending t', t = body ++ ending.chars ++ t' ∧ ending ≠ .none ∧
      ∀ s, bodies (t ++ s) = (body, ending) :: bodies (t' ++ s) := by
  induction t with
  | nil => exact .inl List.not_mem_nil
  | cons c t ih =>
    by_cases hc : c = '\n'
    · exact .inr ⟨[], .lf, t, by rw [hc]; rfl, by simp, fun s => by rw [hc]; rfl⟩
    -- a carriage return right before a line feed is part of the ending, not of the body
    by_cases hreturn : c = '\r' ∧ t.head? = some '\n'
    · obtain ⟨rfl, hhead⟩ := hreturn
      obtain ⟨u, rfl⟩ := List.head?_eq_some_iff.1 hhead
      exact .inr ⟨[], .crlf, u, rfl, by simp, fun s => by rw [List.cons_append]; rfl⟩
    rcases ih with hnone | ⟨body, ending, t', ht, hending, hbodies⟩
    · exact .inl (by simpa [hnone] using Ne.symm hc)
    · refine .inr ⟨c :: body, ending, t', by rw [ht]; rfl, hending, fun s => ?_⟩
      have hhead : (t ++ s).head? = t.head? := by
        cases t with
        | nil => cases ending <;> simp [LineEnding.chars] at ht hending
        | cons d t => rfl
      rw [List.cons_append, bodies_cons hc, hbodies]
      · rfl
      · rw [hhead]
        exact fun h h' => hreturn ⟨h, h'⟩

/-! ## What a layout says -/

namespace Layout

/-- What the token of a text says, if there is any text. -/
def saidText (s : List Char) : List (Token.Kind × String) :=
  if s = [] then [] else [(.text, String.ofList s)]

theorem saidText_nil : saidText [] = [] := rfl

theorem saidText_of_ne {s : List Char} (h : s ≠ []) : saidText s = [(.text, String.ofList s)] :=
  if_neg h

/-- What texts and the tags behind them say. -/
def saidTags (tags : List (List Char × Tag)) : List (Token.Kind × String) :=
  tags.flatMap fun (before, g) => saidText before ++ [(g.kind, String.ofList (Text.trim g.name))]

/-- What the tokens of a layout say if it has not just one tag. -/
def said (l : Layout) (ending : LineEnding) : List (Token.Kind × String) :=
  saidTags l.tags ++ saidText (l.rest ++ ending.chars)

theorem map_said_textToken (s : List Char) (line column : Nat) :
    (textToken s line column).map Token.said = saidText s := by
  unfold textToken saidText
  split <;> rfl

/-- The tokens of a line say its texts and its tags in turn. -/
theorem map_said_tokensFrom (line : Line) (rest : List Char) (column : Nat)
    (tags : List (List Char × Tag)) :
    (tokensFrom line rest column tags).map Token.said = said ⟨tags, rest⟩ line.ending := by
  induction tags generalizing column with
  | nil => exact map_said_textToken _ _ _
  | cons part more ih =>
    obtain ⟨before, g⟩ := part
    rw [tokensFrom, List.map_append, map_said_textToken, List.map_cons, ih]
    simp [said, saidTags, Token.said, Tag.token]

/-- A line with no tag or with several is never standalone, so all of it is said. -/
theorem map_said_tokens {l : Layout} (hl : l.tags.length ≠ 1) (line : Line) :
    (l.tokens line).map Token.said = l.said line.ending := by
  obtain ⟨tags, rest⟩ := l
  match tags with
  | [] => exact map_said_tokensFrom ..
  | [_] => exact absurd rfl hl
  | _ :: _ :: _ => exact map_said_tokensFrom ..

theorem chars_nil : chars ⟨[], []⟩ = [] := rfl

/-- A valid layout is read back from the line that it spells. -/
theorem scan_chars {l : Layout} (hl : l.Valid) (number : Nat) (ending : LineEnding) :
    (⟨number, l.chars, ending⟩ : Line).scan = .ok (l.tokens ⟨number, l.chars, ending⟩) := by
  rw [scan, cuts_chars hl]
  exact congrArg Except.ok (tokens_cuts _ l)

/-- Lines with layouts have tokens. -/
theorem exists_scanAll {lines : List (Layout × LineEnding)}
    (hvalid : ∀ line ∈ lines, line.1.Valid) (hnotAlone : ∀ line ∈ lines, line.1.tags.length ≠ 1)
    (first : Nat) :
    ∃ tokens, scanAll (numbered first (lines.map fun (l, ending) => (l.chars, ending))) =
        .ok tokens ∧
      tokens.map Token.said = lines.flatMap fun (l, ending) => l.said ending := by
  induction lines generalizing first with
  | nil => exact ⟨[], rfl, rfl⟩
  | cons line more ih =>
    obtain ⟨l, ending⟩ := line
    obtain ⟨hl, hmore⟩ := List.forall_mem_cons.1 hvalid
    obtain ⟨hl', hmore'⟩ := List.forall_mem_cons.1 hnotAlone
    obtain ⟨tokens, hscan, hsaid⟩ := ih hmore hmore' (first + 1)
    refine ⟨l.tokens ⟨first, l.chars, ending⟩ ++ tokens, ?_, ?_⟩
    · rw [List.map_cons, numbered, scanAll, scan_chars hl, hscan]
      rfl
    · rw [List.map_append, map_said_tokens hl', hsaid]
      rfl

/-- Puts a text in front of a layout. -/
def pushText (t : List Char) (l : Layout) : Layout :=
  match l.tags with
  | [] => ⟨[], t ++ l.rest⟩
  | (before, g) :: more => ⟨(t ++ before, g) :: more, l.rest⟩

theorem chars_pushText (t : List Char) (l : Layout) : (pushText t l).chars = t ++ l.chars := by
  unfold pushText
  split
  · next htags => simp [chars, htags]
  · next htags => simp [chars, htags]

end Layout

end Line

/-! ## Pages -/

open Line

/-- Lines given by their layouts, none of them with just one tag. -/
structure Page where
  lines : List (Layout × LineEnding)
  /-- The lines of the text are these and no others. -/
  split : bodies (lines.flatMap fun (l, ending) => l.chars ++ ending.chars) =
    lines.map fun (l, ending) => (l.chars, ending)
  valid : ∀ line ∈ lines, line.1.Valid
  notAlone : ∀ line ∈ lines, line.1.tags.length ≠ 1

namespace Page

/-- The text of a page. -/
def chars (p : Page) : List Char := p.lines.flatMap fun (l, ending) => l.chars ++ ending.chars

/-- What the tokens of a page say. -/
def said (p : Page) : List (Token.Kind × String) :=
  p.lines.flatMap fun (l, ending) => l.said ending

/-- The text of a page has tokens, and they say what the page says. -/
theorem exists_scanAll (p : Page) (first : Nat) :
    ∃ tokens, scanAll (numbered first (bodies p.chars)) = .ok tokens ∧
      tokens.map Token.said = p.said := by
  rw [chars, p.split]
  exact Layout.exists_scanAll p.valid p.notAlone first

/-- The page without lines. -/
def empty : Page := ⟨[], rfl, by simp, by simp⟩

/-- Whether a page begins with a tag or is empty. -/
def Opens (p : Page) : Prop :=
  match p.lines with
  | [] => True
  | (l, _) :: _ => ∃ g more, l.tags = ([], g) :: more

/-- A page that begins with a tag does not begin with a line feed. -/
theorem head?_chars_of_opens {p : Page} (h : p.Opens) : p.chars.head? ≠ some '\n' := by
  unfold Opens at h
  unfold chars
  split at h
  · next hlines => simp [hlines]
  · next l ending lines hlines =>
    obtain ⟨g, more, htags⟩ := h
    simp [hlines, Layout.chars, htags, Tag.chars_eq]

/-! ## Something in front of the first line -/

/-- Changes the first line. -/
def onFirst (f : Layout → Layout) : List (Layout × LineEnding) → List (Layout × LineEnding)
  | [] => [(f ⟨[], []⟩, .none)]
  | (l, ending) :: rest => (f l, ending) :: rest

/-- The layout of the first line. -/
def front (p : Page) : Layout := (p.lines.head?.map Prod.fst).getD ⟨[], []⟩

theorem front_of_nil {p : Page} (h : p.lines = []) : p.front = ⟨[], []⟩ := by
  rw [front, h]
  rfl

theorem front_of_cons {p : Page} {l : Layout} {ending : LineEnding}
    {rest : List (Layout × LineEnding)} (h : p.lines = (l, ending) :: rest) : p.front = l := by
  rw [front, h]
  rfl

/-- What holds of all lines still holds when the first one is changed in a way that keeps it. -/
theorem forall_onFirst {P : Layout → Prop} {f : Layout → Layout} {p : Page}
    (hfront : P (f p.front)) (h : ∀ line ∈ p.lines, P line.1) :
    ∀ line ∈ onFirst f p.lines, P line.1 := by
  cases hlines : p.lines with
  | nil =>
    rw [front_of_nil hlines] at hfront
    simpa [onFirst] using hfront
  | cons line rest =>
    rw [front_of_cons hlines] at hfront
    rw [hlines] at h
    exact List.forall_mem_cons.2 ⟨hfront, (List.forall_mem_cons.1 h).2⟩

/-- Characters may go in front of the first line if that leaves it a line of a page. -/
theorem exists_onFirst (p : Page) {f : Layout → Layout} {b : List Char}
    (hf : ∀ l, (f l).chars = b ++ l.chars)
    (hsplit : bodies (b ++ p.chars) = pushAll b (bodies p.chars))
    (hvalid : (f p.front).Valid) (hnotAlone : (f p.front).tags.length ≠ 1) :
    ∃ q : Page, q.lines = onFirst f p.lines ∧ q.chars = b ++ p.chars := by
  have hchars : (onFirst f p.lines).flatMap (fun (l, ending) => l.chars ++ ending.chars) =
      b ++ p.chars := by
    unfold chars
    cases p.lines with
    | nil => simp [onFirst, hf, Layout.chars_nil, LineEnding.chars]
    | cons line rest => simp [onFirst, hf]
  have hbodies : (onFirst f p.lines).map (fun (l, ending) => (l.chars, ending)) =
      pushAll b (bodies p.chars) := by
    rw [chars, p.split]
    cases p.lines with
    | nil => simp [onFirst, hf, pushAll, Layout.chars_nil]
    | cons line rest => simp [onFirst, hf, pushAll]
  exact ⟨⟨onFirst f p.lines, by rw [hchars, hsplit, hbodies], forall_onFirst hvalid p.valid,
    forall_onFirst (P := fun l => l.tags.length ≠ 1) hnotAlone p.notAlone⟩, rfl, hchars⟩

/-- A tag and a pragma may go in front of a page. -/
theorem exists_consTag (p : Page) {g : Tag} (hg : g.Valid) (hline : '\n' ∉ g.chars) :
    ∃ q : Page, q.chars = g.chars ++ Tag.blankPragma.chars ++ p.chars ∧ q.Opens ∧
      q.said = (g.kind, String.ofList (Text.trim g.name)) :: (.pragma, "") :: p.said := by
  -- the first line has room for two more tags in front
  have hvalid : p.front.Valid := by
    cases hlines : p.lines with
    | nil =>
      rw [front_of_nil hlines]
      decide
    | cons line rest =>
      rw [front_of_cons hlines]
      exact p.valid line (by simp [hlines])
  -- neither tag ends the line, so no line is added
  have hsplit : bodies (g.chars ++ Tag.blankPragma.chars ++ p.chars) =
      pushAll (g.chars ++ Tag.blankPragma.chars) (bodies p.chars) := by
    apply bodies_append
    · simp [Tag.chars_eq]
    · rw [List.mem_append, not_or]
      exact ⟨hline, by decide⟩
    · simp [Tag.blankPragma, Tag.chars]
  obtain ⟨q, hlines, hchars⟩ := p.exists_onFirst
    (f := fun l => ⟨([], g) :: ([], .blankPragma) :: l.tags, l.rest⟩)
    (by simp [Layout.chars]) hsplit
    (.cons (by decide) hg (.cons (by decide) (by decide) hvalid)) (by simp)
  refine ⟨q, hchars, ?_, ?_⟩
  · unfold Opens
    rw [hlines]
    cases p.lines <;> exact ⟨_, _, rfl⟩
  · unfold said
    rw [hlines]
    cases p.lines <;> rfl

/-- A text without a line feed may go in front of a page that begins with a tag. -/
theorem exists_consWord (p : Page) (ho : p.Opens) {t : List Char} (hne : t ≠ [])
    (hline : '\n' ∉ t) (ht : Layout.MayPrecedeTag t) :
    ∃ q : Page, q.chars = t ++ p.chars ∧ q.said = (.text, String.ofList t) :: p.said := by
  have hsplit := bodies_append hne hline fun _ => head?_chars_of_opens ho
  have hsaid := Layout.saidText_of_ne hne
  unfold Opens at ho
  split at ho
  · next hlines =>
    -- the text is a line of its own
    have hpush : Layout.pushText t p.front = ⟨[], t⟩ := by
      simp [front_of_nil hlines, Layout.pushText]
    obtain ⟨q, hq, hchars⟩ := p.exists_onFirst (Layout.chars_pushText t) hsplit
      (by rw [hpush]; exact ⟨by simp, by simp, ht.1⟩) (by simp [hpush])
    refine ⟨q, hchars, ?_⟩
    rw [front_of_nil hlines] at hpush
    simp [said, hq, hlines, onFirst, hpush, Layout.said, Layout.saidTags, LineEnding.chars, hsaid]
  · next l ending lines hlines =>
    -- the text stands before the first tag of the first line
    obtain ⟨g, more, htags⟩ := ho
    obtain ⟨tags, rest⟩ := l
    obtain rfl : tags = ([], g) :: more := htags
    have hpush : Layout.pushText t p.front = ⟨(t, g) :: more, rest⟩ := by
      simp [front_of_cons hlines, Layout.pushText]
    have hmem : (⟨([], g) :: more, rest⟩, ending) ∈ p.lines := by simp [hlines]
    obtain ⟨-, hg, hmore⟩ := (p.valid _ hmem).of_cons
    obtain ⟨q, hq, hchars⟩ := p.exists_onFirst (Layout.chars_pushText t) hsplit
      (by rw [hpush]; exact .cons ht hg hmore) (by rw [hpush]; exact p.notAlone _ hmem)
    refine ⟨q, hchars, ?_⟩
    rw [front_of_cons hlines] at hpush
    simp [said, hq, hlines, onFirst, hpush, Layout.said, Layout.saidTags, hsaid,
      Layout.saidText_nil]

/-- A whole line of text may go in front of any page. -/
theorem exists_consLine (p : Page) {body : List Char} {ending : LineEnding}
    (hending : ending ≠ .none) (hbody : Apart '{' '{' body)
    (hsplit : bodies (body ++ ending.chars ++ p.chars) = (body, ending) :: bodies p.chars) :
    ∃ q : Page, q.chars = body ++ ending.chars ++ p.chars ∧
      q.said = (.text, String.ofList (body ++ ending.chars)) :: p.said := by
  refine ⟨⟨(⟨[], body⟩, ending) :: p.lines, hsplit.trans (congrArg _ p.split), ?_, ?_⟩, rfl, ?_⟩
  · exact List.forall_mem_cons.2 ⟨⟨by simp, by simp, hbody⟩, p.valid⟩
  · exact List.forall_mem_cons.2 ⟨by simp, p.notAlone⟩
  · have hne : body ++ ending.chars ≠ [] := by
      cases ending <;> simp [LineEnding.chars] at hending ⊢
    show Layout.saidText (body ++ ending.chars) ++ p.said = _
    rw [Layout.saidText_of_ne hne]
    rfl

/-- A text may go in front of a page that begins with a tag, and its tokens are pieces of it. -/
theorem exists_consText (p : Page) (ho : p.Opens) {t : List Char} (ht : Layout.MayPrecedeTag t) :
    ∃ q : Page, q.chars = t ++ p.chars ∧ ∃ pieces : List (List Char), pieces.flatten = t ∧
      q.said = pieces.map (fun piece => (.text, String.ofList piece)) ++ p.said := by
  -- the induction is on the lines of the text: its first line goes in front of all the others
  induction hn : t.length using Nat.strongRecOn generalizing t with
  | ind n ih =>
  rcases exists_line t with hline | ⟨body, ending, t', rfl, hending, hbodies⟩
  · by_cases hne : t = []
    · exact ⟨p, by rw [hne]; rfl, [], by rw [hne]; rfl, rfl⟩
    · obtain ⟨q, hchars, hsaid⟩ := p.exists_consWord ho hne hline ht
      exact ⟨q, hchars, [t], by simp, hsaid⟩
  · have hlt : t'.length < n := by
      rw [← hn]
      cases ending <;> simp [LineEnding.chars] at hending ⊢ <;> omega
    obtain ⟨q, hchars, pieces, hpieces, hsaid⟩ := ih _ hlt ht.of_append rfl
    have hbody : Apart '{' '{' body :=
      ht.1.of_isInfix ((List.prefix_append _ _).trans (List.prefix_append _ _)).isInfix
    obtain ⟨r, hchars', hsaid'⟩ := q.exists_consLine hending hbody
      (by rw [hchars, ← hbodies p.chars, List.append_assoc _ t'])
    refine ⟨r, ?_, (body ++ ending.chars) :: pieces, by rw [← hpieces]; rfl, ?_⟩
    · rw [hchars', hchars, List.append_assoc _ t']
    · rw [hsaid', hsaid]
      rfl

end Page

end Mustache
