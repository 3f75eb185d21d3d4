import Mustache.Proofs.Template.Insertion

/-!
# Line endings

A text whose lines end in a line feed and the same text with a carriage return before every line
feed are read alike. The carriage return belongs to the ending of its line, and the cutting of a
line at its tags never sees the ending. So the tokens are the same, at the same lines and columns,
apart from the line endings in texts; and where the one text is refused, so is the other, for the
same reason at the same line.

The reading of nodes puts texts together but does not look into them. So any change of texts that
can be made piece by piece passes from tokens to nodes.
-/

namespace Mustache

/-- A text with a carriage return before every line feed. -/
def Text.withReturns (s : List Char) : List Char :=
  s.flatMap fun c => if c = '\n' then ['\r', '\n'] else [c]

/-- `withReturns` on strings. -/
def Text.returned (s : String) : String := String.ofList (withReturns s.toList)

namespace Text

theorem withReturns_cons_of_ne {c : Char} (hc : c ≠ '\n') (s : List Char) :
    withReturns (c :: s) = c :: withReturns s := by
  rw [withReturns, List.flatMap_cons, if_neg hc]
  rfl

theorem withReturns_append (s t : List Char) :
    withReturns (s ++ t) = withReturns s ++ withReturns t := List.flatMap_append

/-- A text without line feeds stays as it is. -/
theorem withReturns_of_not_mem {s : List Char} (h : '\n' ∉ s) : withReturns s = s := by
  induction s with
  | nil => rfl
  | cons c s ih =>
    obtain ⟨hc, hs⟩ := not_or.1 (mt List.mem_cons.2 h)
    rw [withReturns_cons_of_ne (Ne.symm hc), ih hs]

theorem returned_append (s t : String) : returned (s ++ t) = returned s ++ returned t := by
  rw [returned, String.toList_append, withReturns_append, String.ofList_append]
  rfl

theorem returned_ofList (s : List Char) :
    returned (String.ofList s) = String.ofList (withReturns s) := by
  rw [returned, String.toList_ofList]

end Text

/-! ## Texts that are changed piece by piece -/

/-- A token with another text, if it is a text. -/
def Token.respell (g : String → String) (t : Token) : Token :=
  if t.kind = .text then { t with value := g t.value } else t

/-- A cursor over tokens with other texts. -/
def Cursor.respell (g : String → String) (c : Cursor) : Cursor :=
  { c with past := c.past.map (Token.respell g), rest := c.rest.map (Token.respell g) }

mutual

/-- A node with other texts. -/
def Node.respell (g : String → String) : Node → Node
  | .text s => .text (g s)
  | .block inverted name body => .block inverted name (respellAll g body)
  | other => other

/-- Nodes with other texts. -/
def Node.respellAll (g : String → String) : List Node → List Node
  | [] => []
  | first :: rest => respell g first :: respellAll g rest

end

section
variable {g : String → String}

theorem Token.kind_respell (t : Token) : (t.respell g).kind = t.kind := by
  unfold respell
  split <;> rfl

theorem Token.respell_of_ne {t : Token} (h : t.kind ≠ .text) : t.respell g = t := if_neg h

/-- Spelling a text anew opens no section. -/
theorem Token.opensSection_respell (t : Token) :
    (t.respell g).opensSection = t.opensSection := by
  rw [opensSection, kind_respell, opensSection]

namespace Cursor

theorem atEnd_respell (c : Cursor) : (c.respell g).atEnd = c.atEnd := by
  unfold atEnd current respell
  cases c.rest with
  | nil => rfl
  | cons t ts =>
    show (((t.respell g).kind == .finish) : Bool) = (t.kind == .finish)
    rw [Token.kind_respell]

theorem rest_respell {c : Cursor} {t : Token} {ts : List Token} (h : c.rest = t :: ts) :
    (c.respell g).rest = t.respell g :: ts.map (Token.respell g) := by
  rw [respell, h]
  rfl

theorem advance_respell (c : Cursor) : (c.respell g).advance = c.advance.respell g := by
  unfold advance
  cases hrest : c.rest with
  | nil => simp [respell, hrest]
  | cons t ts => simp [respell, hrest]

theorem close_respell (c : Cursor) (t : Token) :
    (c.respell g).close t = (c.close t).map (respell g) := by
  cases hopened : c.opened with
  | nil =>
    have hrespell : (c.respell g).opened = [] := hopened
    rw [close_of_opened_nil hopened, close_of_opened_nil hrespell]
    rfl
  | cons o outer =>
    have hrespell : (c.respell g).opened = o :: outer := hopened
    rw [close_of_opened_cons hopened, close_of_opened_cons hrespell]
    split
    · rfl
    · rfl

end Cursor

namespace Node

/-- A spelling that goes through joined texts goes through text in front of nodes. -/
theorem respellAll_consText (happend : ∀ s t, g (s ++ t) = g s ++ g t) (s : String)
    (nodes : List Node) :
    respellAll g (consText s nodes) = consText (g s) (respellAll g nodes) := by
  cases nodes with
  | nil => rfl
  | cons first rest =>
    cases first with
    | text t =>
      show Node.text (g (s ++ t)) :: respellAll g rest = .text (g s ++ g t) :: respellAll g rest
      rw [happend]
    | _ => rfl

theorem consToken_respell (happend : ∀ s t, g (s ++ t) = g s ++ g t) (t : Token)
    (nodes : List Node) :
    consToken (t.respell g) (respellAll g nodes) = respellAll g (consToken t nodes) := by
  by_cases htext : t.kind = .text
  · have hrespell : t.respell g = { t with value := g t.value } := if_pos htext
    rw [hrespell]
    simp only [consToken, htext]
    exact (respellAll_consText happend t.value nodes).symm
  · rw [Token.respell_of_ne htext]
    unfold consToken
    split
    · next hkind => exact absurd hkind htext
    all_goals rfl

/-- Tokens with other texts are read as nodes with other texts, and what is wrong with them stays
the same. -/
theorem reading_respell (happend : ∀ s t, g (s ++ t) = g s ++ g t) (opening : Option Token)
    (c : Cursor) :
    reading opening (c.respell g) =
      (reading opening c).map fun (nodes, d) => (respellAll g nodes, d.respell g) := by
  induction opening, c using reading_induction with
  | @atEnd opening c hend =>
    rw [reading_of_atEnd hend, reading_of_atEnd ((Cursor.atEnd_respell c).trans hend)]
    cases opening with
    | none => rfl
    | some t => rfl
  | @nested opening c t ts hrest ho ihbody ihnodes =>
    -- an opening tag is no text, so the section is opened by the same token
    have hrespell := Cursor.rest_respell (g := g) hrest
    rw [Token.respell_of_ne (Token.kind_of_opensSection ho).2] at hrespell
    have hopen : (c.advance.respell g).openSection t = (c.advance.openSection t).respell g := rfl
    rw [reading_of_opensSection hrest ho, reading_of_opensSection hrespell ho,
      Cursor.advance_respell, hopen, ihbody]
    cases hread : reading (some t) (c.advance.openSection t) with
    | error e => rfl
    | ok result =>
      obtain ⟨body, d⟩ := result
      simp only [Except.map, bind, Except.bind, ihnodes body d hread]
      cases reading opening d with
      | error e => rfl
      | ok result => rfl
  | @closed opening c t ts hrest he =>
    -- nor is a closing tag
    have htext : t.kind ≠ .text := by simp [he]
    have hrespell := Cursor.rest_respell (g := g) hrest
    rw [Token.respell_of_ne htext] at hrespell
    rw [reading_of_sectionEnd hrest he, reading_of_sectionEnd hrespell he,
      Cursor.advance_respell, Cursor.close_respell]
    cases c.advance.close t with
    | error e => rfl
    | ok d => rfl
  | @plain opening c t ts hrest hf ho he ih =>
    -- any other token goes in front, and only here can it be a text
    rw [reading_of_plain hrest hf ho he,
      reading_of_plain (Cursor.rest_respell hrest) (by rwa [Token.kind_respell])
        ((Token.opensSection_respell t).trans ho) (by rwa [Token.kind_respell]),
      Cursor.advance_respell, ih]
    cases reading opening c.advance with
    | error e => rfl
    | ok result =>
      obtain ⟨nodes, d⟩ := result
      simp only [Except.map, bind, Except.bind, consToken_respell happend]
      rfl

/-- So the tree of respelled tokens is the tree respelled. -/
theorem ofTokens_respell (happend : ∀ s t, g (s ++ t) = g s ++ g t) (tokens : List Token) :
    ofTokens (tokens.map (Token.respell g)) = (ofTokens tokens).map (respellAll g) := by
  have hcursor : Cursor.ofTokens (tokens.map (Token.respell g)) =
      (Cursor.ofTokens tokens).respell g := rfl
  rw [ofTokens_eq_reading, ofTokens_eq_reading, hcursor, reading_respell happend]
  cases reading none (Cursor.ofTokens tokens) with
  | error e => rfl
  | ok result => rfl

end Node

end

/-! ## Lines with other endings -/

/-- An ending with a carriage return. -/
def LineEnding.returned : LineEnding → LineEnding
  | .none => .none
  | .lf | .crlf => .crlf

namespace Line

/-- A line whose ending has a carriage return. -/
def returned (line : Line) : Line := { line with ending := line.ending.returned }

/-- A text without carriage returns has lines without them; no body has a line feed. -/
theorem plain_of_mem_bodies {s : List Char} (h : '\r' ∉ s) {line : List Char × LineEnding}
    (hline : line ∈ bodies s) : '\n' ∉ line.1 ∧ line.2 ≠ .crlf := by
  fun_induction bodies s generalizing line with
  | case1 => exact absurd hline List.not_mem_nil
  | case2 s ih => exact absurd List.mem_cons_self h
  | case3 s ih =>
    rcases List.mem_cons.1 hline with rfl | hline
    · exact ⟨List.not_mem_nil, by simp⟩
    · exact ih (List.not_mem_of_not_mem_cons h) hline
  | case4 c s hreturn hc ih =>
    have hs : '\r' ∉ s := List.not_mem_of_not_mem_cons h
    have hbody {body : List Char} (hbody : '\n' ∉ body) : '\n' ∉ c :: body :=
      List.not_mem_cons_of_ne_of_not_mem (fun heq => hc heq.symm) hbody
    cases hbodies : bodies s with
    | nil =>
      rw [hbodies, pushFront, List.mem_singleton] at hline
      rw [hline]
      exact ⟨hbody List.not_mem_nil, by simp⟩
    | cons first rest =>
      obtain ⟨body, ending⟩ := first
      rw [hbodies] at ih hline
      rcases List.mem_cons.1 hline with rfl | hline
      · obtain ⟨hfirst, hending⟩ := ih hs List.mem_cons_self
        exact ⟨hbody hfirst, hending⟩
      · exact ih hs (List.mem_cons_of_mem _ hline)

/-- A text without carriage returns has the same lines when returned; only their endings differ. -/
theorem bodies_withReturns {s : List Char} (h : '\r' ∉ s) :
    bodies (Text.withReturns s) = (bodies s).map fun line => (line.1, line.2.returned) := by
  fun_induction bodies s with
  | case1 => rfl
  | case2 s ih => exact absurd List.mem_cons_self h
  | case3 s ih =>
    have hchars : Text.withReturns ('\n' :: s) = '\r' :: '\n' :: Text.withReturns s := rfl
    rw [hchars, bodies, ih (List.not_mem_of_not_mem_cons h)]
    rfl
  | case4 c s hreturn hc ih =>
    have hne : c ≠ '\r' := by
      rintro rfl
      exact h List.mem_cons_self
    rw [Text.withReturns_cons_of_ne hc, bodies_cons hc fun heq => absurd heq hne,
      ih (List.not_mem_of_not_mem_cons h)]
    cases bodies s with
    | nil => rfl
    | cons first rest => rfl

theorem numbered_returned (first : Nat) (lines : List (List Char × LineEnding)) :
    numbered first (lines.map fun line => (line.1, line.2.returned)) =
      (numbered first lines).map returned := by
  induction lines generalizing first with
  | nil => rfl
  | cons line rest ih =>
    rw [List.map_cons, numbered, ih]
    rfl

theorem split_withReturns {s : List Char} (h : '\r' ∉ s) :
    split (Text.withReturns s) = (split s).map returned := by
  rw [split, bodies_withReturns h, numbered_returned]
  rfl

/-! ## Tokens of such lines -/

theorem Tag.kind_ne_text (tag : Tag) : tag.kind ≠ .text := by
  unfold kind
  split <;> simp

namespace Layout

/-- Text between tags is returned as the token it makes. -/
theorem textToken_withReturns (s : List Char) (line column : Nat) :
    textToken (Text.withReturns s) line column =
      (textToken s line column).map (Token.respell Text.returned) := by
  cases s with
  | nil => rfl
  | cons c s =>
    have hne : Text.withReturns (c :: s) ≠ [] := by
      rw [Text.withReturns, List.flatMap_cons]
      split <;> simp
    rw [textToken, if_neg hne, textToken, if_neg (List.cons_ne_nil c s), ← Text.returned_ofList]
    rfl

/-- The tokens of a line change in the text of its ending alone. -/
theorem tokensFrom_returned {line : Line} (hending : line.ending ≠ .crlf) {rest : List Char}
    (hrest : '\n' ∉ rest) {tags : List (List Char × Tag)} (htags : ∀ part ∈ tags, '\n' ∉ part.1)
    (column : Nat) :
    tokensFrom line.returned rest column tags =
      (tokensFrom line rest column tags).map (Token.respell Text.returned) := by
  induction tags generalizing column with
  | nil =>
    -- only the last text of a line has the ending in it
    have hchars : Text.withReturns (rest ++ line.ending.chars) =
        rest ++ line.ending.returned.chars := by
      rw [Text.withReturns_append, Text.withReturns_of_not_mem hrest]
      cases hline : line.ending with
      | none => rfl
      | lf => rfl
      | crlf => exact absurd hline hending
    rw [tokensFrom, tokensFrom, ← textToken_withReturns, hchars]
    rfl
  | cons part more ih =>
    obtain ⟨before, tag⟩ := part
    obtain ⟨hbefore, hmore⟩ := List.forall_mem_cons.1 htags
    have htext := textToken_withReturns before line.number column
    rw [Text.withReturns_of_not_mem hbefore] at htext
    have htag : (tag.token line.number (column + before.length)).respell Text.returned =
        tag.token line.number (column + before.length) := Token.respell_of_ne tag.kind_ne_text
    rw [tokensFrom, tokensFrom, List.map_append, List.map_cons, ← htext, htag, ← ih hmore]
    rfl

/-- A standalone line stays one, for its ending is dropped either way. -/
theorem tokens_returned {line : Line} (hending : line.ending ≠ .crlf) {l : Layout}
    (hchars : '\n' ∉ l.chars) :
    l.tokens line.returned = (l.tokens line).map (Token.respell Text.returned) := by
  have hrest : '\n' ∉ l.rest := fun hmem => hchars (List.mem_append_right _ hmem)
  have htags : ∀ part ∈ l.tags, '\n' ∉ part.1 := by
    intro part hpart hmem
    apply hchars
    apply List.mem_append_left
    exact List.mem_flatMap.2 ⟨part, hpart, List.mem_append_left _ hmem⟩
  have hfrom := tokensFrom_returned hending hrest htags 1
  obtain ⟨tags, rest⟩ := l
  match tags with
  | [] => exact hfrom
  | [(before, tag)] =>
    unfold tokens
    dsimp only
    split
    · have htag : (tag.token line.number (1 + before.length)).respell Text.returned =
          tag.token line.number (1 + before.length) := Token.respell_of_ne tag.kind_ne_text
      rw [List.map_singleton, htag]
      rfl
    · exact hfrom
  | _ :: _ :: _ => exact hfrom

end Layout

/-- The ending of a line shows in its tokens only, and there only in a text. -/
theorem scan_returned {line : Line} (hbody : '\n' ∉ line.body) (hending : line.ending ≠ .crlf) :
    line.returned.scan = line.scan.map (List.map (Token.respell Text.returned)) := by
  have hcuts : line.returned.scan =
      (cuts line.number 1 line.body).map (Cuts.tokens line.returned) := rfl
  rw [hcuts, scan]
  cases hline : cuts line.number 1 line.body with
  | error e => rfl
  | ok c =>
    obtain ⟨l, hl, hchars⟩ := Layout.exists_of_cuts hline
    rw [← hchars, Layout.cuts_chars hl] at hline
    obtain rfl := Except.ok.inj hline
    have htokens := Layout.tokens_returned hending (hchars ▸ hbody)
    rw [← Layout.tokens_cuts line, ← Layout.tokens_cuts line.returned] at htokens
    exact congrArg Except.ok htokens

/-- So all lines are scanned alike. -/
theorem scanAll_returned {lines : List Line}
    (h : ∀ line ∈ lines, '\n' ∉ line.body ∧ line.ending ≠ .crlf) :
    scanAll (lines.map returned) =
      (scanAll lines).map (List.map (Token.respell Text.returned)) := by
  induction lines with
  | nil => rfl
  | cons line rest ih =>
    obtain ⟨⟨hbody, hending⟩, hrest⟩ := List.forall_mem_cons.1 h
    rw [List.map_cons, scanAll, scanAll, scan_returned hbody hending, ih hrest]
    cases line.scan with
    | error e => rfl
    | ok tokens =>
      cases scanAll rest with
      | error e => rfl
      | ok later => exact congrArg Except.ok (List.map_append ..).symm

theorem plain_of_mem_numbered {first : Nat} {lines : List (List Char × LineEnding)}
    (h : ∀ line ∈ lines, '\n' ∉ line.1 ∧ line.2 ≠ .crlf) {line : Line}
    (hline : line ∈ numbered first lines) : '\n' ∉ line.body ∧ line.ending ≠ .crlf := by
  induction lines generalizing first with
  | nil => exact absurd hline List.not_mem_nil
  | cons head rest ih =>
    obtain ⟨hhead, hrest⟩ := List.forall_mem_cons.1 h
    rcases List.mem_cons.1 hline with rfl | hline
    · exact hhead
    · exact ih hrest hline

end Line

/-- A text without carriage returns and the text with one before every line feed have the same
tokens up to the line endings in texts, or are refused for the same reason at the same line. -/
theorem Token.scan_withReturns {s : List Char} (h : '\r' ∉ s) :
    scan (Text.withReturns s) = (scan s).map (List.map (respell Text.returned)) := by
  have hlines : ∀ line ∈ Line.split s, '\n' ∉ line.body ∧ line.ending ≠ .crlf :=
    fun line => Line.plain_of_mem_numbered fun _ => Line.plain_of_mem_bodies h
  have hlast : Line.lastNumber ((Line.split s).map Line.returned) =
      Line.lastNumber (Line.split s) := by
    rw [Line.lastNumber, List.length_map]
    rfl
  simp only [scan, Line.split_withReturns h, Line.scanAll_returned hlines, hlast]
  cases Line.scanAll (Line.split s) with
  | error e => rfl
  | ok tokens =>
    have hfinish (line : Int) : (finishAt line).respell Text.returned = finishAt line :=
      respell_of_ne (by simp [finishAt])
    simp only [Except.map, List.map_append, List.map_singleton, hfinish]

namespace Template

/-- The line endings of a text make no difference to what it means: with a carriage return before
every line feed it has the same tokens and is read as the same nodes, up to the line endings in
texts, or it is refused for the same reason at the same line. -/
theorem parse_returned {text : String} (h : '\r' ∉ text.toList) :
    Token.scan (Text.returned text).toList =
        (Token.scan text.toList).map (List.map (Token.respell Text.returned)) ∧
      parse (Text.returned text) = (parse text).map (Node.respellAll Text.returned) := by
  have hscan : Token.scan (Text.returned text).toList =
      (Token.scan text.toList).map (List.map (Token.respell Text.returned)) := by
    rw [Text.returned, String.toList_ofList]
    exact Token.scan_withReturns h
  refine ⟨hscan, ?_⟩
  unfold parse
  rw [hscan]
  cases Token.scan text.toList with
  | error e => rfl
  | ok tokens => exact Node.ofTokens_respell Text.returned_append tokens

/-- A section on lines of its own, a name with a text behind it, and a last line without an
ending. -/
theorem parse_returned_section :
    '\r' ∉ "{{#x}}\n{{.}},\n{{/x}}\nz".toList ∧
      parse (Text.returned "{{#x}}\n{{.}},\n{{/x}}\nz") =
        .ok [.block false "x" [.variable "." true, .text ",\r\n"], .text "z"] := by
  have hreturn : '\r' ∉ "{{#x}}\n{{.}},\n{{/x}}\nz".toList := by decide
  have hparse : parse "{{#x}}\n{{.}},\n{{/x}}\nz" =
      .ok [.block false "x" [.variable "." true, .text ",\n"], .text "z"] := by
    with_unfolding_all rfl
  have hinside : Text.returned ",\n" = ",\r\n" := by decide
  have hlast : Text.returned "z" = "z" := by decide
  have hnodes := (parse_returned hreturn).2
  rw [hparse] at hnodes
  simp only [Except.map, Node.respellAll, Node.respell, hinside, hlast] at hnodes
  exact ⟨hreturn, hnodes⟩

end Template

end Mustache
