import Mustache.Proofs.Template.Remarks

/-!
# A remark line put into a text

A text is compared with the same text that has a line with nothing but a remark put in somewhere
between two of its lines. Both are refused for the same reason or both are read, and then as nodes
that differ in remarks only. What is wrong behind the new line is shown one line further down.

The lines of the two texts are compared first, then their tokens, and then what the tokens are read
as.
-/

namespace Mustache

open Line SyntaxError

/-- A line that holds a comment or a pragma and otherwise only blanks. -/
structure RemarkLine where
  before : List Char
  /-- The character that marks the tag. -/
  sigil : Char
  words : List Char
  after : List Char
  isRemark : sigil = '!' ∨ sigil = '%'
  blank_before : ∀ c ∈ before, Text.isBlank c = true ∧ c ≠ '\n'
  blank_after : ∀ c ∈ after, Text.isBlank c = true ∧ c ≠ '\n'
  oneLine : '\n' ∉ words
  /-- The tag does not end within its words. -/
  apart : Apart '}' '}' words
  last : words.getLast? ≠ some '}'

namespace RemarkLine

variable (l : RemarkLine)

/-- The tag of a remark line. -/
def tag : Tag := .double (l.sigil :: l.words)

/-- The characters of a remark line with its line feed. -/
def chars : List Char := l.before ++ l.tag.chars ++ l.after ++ ['\n']

/-- The text of a remark line. -/
def text : String := String.ofList l.chars

/-- The tag of a remark line is a remark. -/
theorem isRemark_token (line column : Nat) : (l.tag.token line column).IsRemark := by
  have hkind : l.tag.kind = .comment ∨ l.tag.kind = .pragma := by
    unfold tag
    rcases l.isRemark with hsigil | hsigil
    · exact .inl (by rw [hsigil]; rfl)
    · exact .inr (by rw [hsigil]; rfl)
  exact hkind

/-- Such a line has a valid tag on it. -/
theorem valid_tag : l.tag.Valid := by
  have hopen : l.sigil ≠ '{' := by rcases l.isRemark with h | h <;> rw [h] <;> decide
  have hclose : l.sigil ≠ '}' := by rcases l.isRemark with h | h <;> rw [h] <;> decide
  refine ⟨List.cons_ne_nil _ _, by simpa using hopen, (apart_cons_of_ne hclose).2 l.apart,
    getLast?_cons_ne hclose l.last, .inl ?_⟩
  exact l.isRemark_token 1 1

theorem not_mem_chars_tag : '\n' ∉ l.tag.chars := by
  have hsigil : l.sigil ≠ '\n' := by rcases l.isRemark with h | h <;> rw [h] <;> decide
  have hwords := l.oneLine
  simp [tag, Tag.chars, hsigil.symm, hwords]

theorem getLast?_chars_tag : l.tag.chars.getLast? = some '}' := by
  show (['{', '{'] ++ l.sigil :: l.words ++ ['}', '}']).getLast? = some '}'
  rw [List.getLast?_append]
  rfl

/-- Blanks contain no brace. -/
theorem not_mem_of_blank {s : List Char} (h : ∀ c ∈ s, Text.isBlank c = true) :
    '{' ∉ s ∧ '}' ∉ s := by
  constructor
  · intro hmem
    exact absurd (h _ hmem) (by decide)
  · intro hmem
    exact absurd (h _ hmem) (by decide)

/-- A remark line has no token but that of its tag, whatever blanks stand behind the tag. -/
theorem scan_eq {after : List Char} (hafter : ∀ c ∈ after, Text.isBlank c = true) (number : Nat)
    (ending : LineEnding) :
    scan ⟨number, l.before ++ l.tag.chars ++ after, ending⟩ =
      .ok [l.tag.token number (1 + l.before.length)] := by
  have hbefore (c : Char) (hc : c ∈ l.before) : Text.isBlank c = true := (l.blank_before c hc).1
  obtain ⟨hopen, hclose⟩ := not_mem_of_blank hbefore
  have hprecedes : Layout.MayPrecedeTag l.before := by
    refine ⟨apart_of_not_mem hopen, apart_of_not_mem hclose, ?_⟩
    intro hlast
    exact hopen (List.mem_of_getLast? hlast)
  have hrest : Layout.Valid ⟨[], after⟩ := by
    refine ⟨by simp, by simp, apart_of_not_mem (not_mem_of_blank hafter).1⟩
  have hvalid : Layout.Valid ⟨[(l.before, l.tag)], after⟩ := .cons hprecedes l.valid_tag hrest
  have hchars : Layout.chars ⟨[(l.before, l.tag)], after⟩ = l.before ++ l.tag.chars ++ after := by
    simp [Layout.chars]
  -- the blanks are no tokens of their own, since the tag is the only one of its line
  have halone : (l.before.all Text.isBlank && after.all Text.isBlank) = true := by
    rw [Bool.and_eq_true, List.all_eq_true, List.all_eq_true]
    exact ⟨hbefore, hafter⟩
  rw [← hchars, Layout.scan_chars hvalid]
  exact congrArg Except.ok (if_pos halone)

/-- A remark line is one line of any text that goes on behind it. A carriage return before its line
feed belongs to the ending. -/
theorem exists_bodies : ∃ after ending, (∀ c ∈ after, Text.isBlank c = true) ∧
    ∀ s, bodies (l.chars ++ s) = (l.before ++ l.tag.chars ++ after, ending) :: bodies s := by
  have hne (after : List Char) : l.before ++ l.tag.chars ++ after ≠ [] := by simp [Tag.chars_eq]
  have hline {after : List Char} (hafter : ∀ c ∈ after, c ∈ l.after) :
      '\n' ∉ l.before ++ l.tag.chars ++ after := by
    simp only [List.mem_append, not_or]
    refine ⟨⟨?_, l.not_mem_chars_tag⟩, ?_⟩
    · exact fun hmem => (l.blank_before _ hmem).2 rfl
    · exact fun hmem => (l.blank_after _ (hafter _ hmem)).2 rfl
  by_cases hreturn : l.after.getLast? = some '\r'
  -- a carriage return at the end of the remark line is part of its ending
  · obtain ⟨after, hafter⟩ := List.getLast?_eq_some_iff.1 hreturn
    have hmem : ∀ c ∈ after, c ∈ l.after := by
      intro c hc
      rw [hafter]
      exact List.mem_append_left _ hc
    refine ⟨after, .crlf, fun c hc => (l.blank_after c (hmem c hc)).1, fun s => ?_⟩
    have hsplit := bodies_append (s := '\r' :: '\n' :: s) (hne after) (hline hmem) (by simp)
    have hchars : l.chars ++ s = l.before ++ l.tag.chars ++ after ++ '\r' :: '\n' :: s := by
      simp [chars, hafter]
    rw [hchars, hsplit]
    simp [bodies, pushAll]
  · refine ⟨l.after, .lf, fun c hc => (l.blank_after c hc).1, fun s => ?_⟩
    have hlast : (l.before ++ l.tag.chars ++ l.after).getLast? ≠ some '\r' := by
      rw [List.getLast?_append]
      cases hafter : l.after.getLast? with
      | none => simp [l.getLast?_chars_tag]
      | some c =>
        rw [hafter] at hreturn
        exact hreturn
    have hsplit := bodies_append (s := '\n' :: s) (hne l.after) (hline fun _ => id)
      (absurd · hlast)
    have hchars : l.chars ++ s = l.before ++ l.tag.chars ++ l.after ++ '\n' :: s := by
      simp [chars]
    rw [hchars, hsplit]
    simp [bodies, pushAll]

end RemarkLine

namespace Line

/-- The number of a line after another line has been put in behind the first `k` lines. -/
def behind (k : Nat) (n : Int) : Int := if n ≤ k then n else n + 1

theorem behind_of_le {k : Nat} {n : Int} (h : n ≤ k) : behind k n = n := if_pos h

theorem behind_of_lt {k : Nat} {n : Int} (h : k < n) : behind k n = n + 1 := if_neg (by omega)

/-- The lines in front keep their numbers. -/
theorem scanAll_front (lines : List (List Char × LineEnding)) :
    scanAll (numbered 1 lines) =
      carry (behind lines.length) (List.map (Token.moved (behind lines.length)))
        (scanAll (numbered 1 lines)) := by
  apply scanAll_moved
  intro i hi
  exact behind_of_le (by omega)

/-- The lines behind get the next numbers. -/
theorem scanAll_behind (k : Nat) (later : List (List Char × LineEnding)) :
    scanAll (numbered (1 + k + 1) later) =
      carry (behind k) (List.map (Token.moved (behind k))) (scanAll (numbered (1 + k) later)) := by
  apply scanAll_moved
  intro i _
  rw [behind_of_lt (by omega)]
  omega

/-- Lines with one more line among them are scanned as before, apart from the token of that line and
the numbers of the lines behind it. -/
theorem scanAll_insert {lines : List (List Char × LineEnding)}
    (later : List (List Char × LineEnding)) {body : List Char} {ending : LineEnding} {x : Token}
    (hx : scan ⟨1 + lines.length, body, ending⟩ = .ok [x]) :
    (∀ e, scanAll (numbered 1 (lines ++ later)) = .error e →
      scanAll (numbered 1 (lines ++ (body, ending) :: later)) =
        .error (e.moved (behind lines.length))) ∧
    ∀ tokens, scanAll (numbered 1 (lines ++ later)) = .ok tokens → ∃ before after,
      tokens = before ++ after ∧ scanAll (numbered 1 (lines ++ (body, ending) :: later)) =
        .ok (before.map (Token.moved (behind lines.length)) ++
          x :: after.map (Token.moved (behind lines.length))) := by
  have hfront := scanAll_front lines
  rw [numbered_append, numbered_append, numbered, scanAll_append, scanAll_append, scanAll, hx,
    scanAll_behind]
  cases hlines : scanAll (numbered 1 lines) with
  -- a refusal in front of the new line keeps its number,
  | error e =>
    rw [hlines] at hfront
    constructor
    · rintro e' ⟨⟩
      exact hfront
    · rintro tokens ⟨⟩
  | ok before =>
    rw [hlines] at hfront
    have hbefore : before = before.map (Token.moved (behind lines.length)) := Except.ok.inj hfront
    cases scanAll (numbered (1 + lines.length) later) with
    -- one behind it counts one line more
    | error e =>
      constructor
      · rintro e' ⟨⟩
        rfl
      · rintro tokens ⟨⟩
    | ok after =>
      constructor
      · rintro e' ⟨⟩
      · rintro tokens ⟨⟩
        refine ⟨before, after, rfl, ?_⟩
        rw [← hbefore]
        rfl

end Line

namespace Node

/-! ## Errors of a reading -/

/-- Closing a section knows of no template, so its errors name none. -/
theorem template_of_close {c : Cursor} {t : Token} {e : SyntaxError} (h : c.close t = .error e) :
    e.template = "" := by
  cases hopened : c.opened with
  | nil =>
    rw [Cursor.close_of_opened_nil hopened] at h
    exact Except.error.inj h ▸ rfl
  | cons o outer =>
    rw [Cursor.close_of_opened_cons hopened] at h
    split at h
    · cases h
    · exact Except.error.inj h ▸ rfl

/-- What is wrong with tokens is said without the name of the template. -/
theorem template_of_reading {opening : Option Token} {c : Cursor} {e : SyntaxError}
    (h : reading opening c = .error e) : e.template = "" := by
  induction opening, c using reading_induction with
  | @atEnd opening c hend =>
    rw [reading_of_atEnd hend] at h
    cases opening with
    | none => cases h
    | some t => exact Except.error.inj h ▸ rfl
  | nested hrest ho ihbody ihnodes =>
    rw [reading_of_opensSection hrest ho] at h
    -- the failure lies in the body or behind it
    rcases bind_eq_error_iff.1 h with hbody | ⟨⟨body, d⟩, hbody, h⟩
    · exact ihbody hbody
    · rcases bind_eq_error_iff.1 h with hnodes | ⟨_, _, h⟩
      · exact ihnodes body d hbody hnodes
      · cases h
  | closed hrest he =>
    rw [reading_of_sectionEnd hrest he] at h
    exact template_of_close (map_eq_error_iff.1 h)
  | plain hrest hf ho he ih =>
    rw [reading_of_plain hrest hf ho he] at h
    rcases bind_eq_error_iff.1 h with hnodes | ⟨_, _, h⟩
    · exact ih hnodes
    · cases h

theorem template_of_ofTokens {tokens : List Token} {e : SyntaxError}
    (h : ofTokens tokens = .error e) : e.template = "" := by
  rw [ofTokens_eq_reading] at h
  exact template_of_reading (map_eq_error_iff.1 h)

/-! ## Readings that are alike -/

/-- Two errors of the same words, the second at the number that the line of the first one has been
given. -/
structure SaysAgain (place : Int → Int) (e e' : SyntaxError) : Prop where
  message : e'.problem.message = e.problem.message
  line : e'.line = place e.line
  template : e'.template = e.template

/-- The name of the template is added to both errors or to none. -/
theorem SaysAgain.named {place : Int → Int} {e e' : SyntaxError} (h : SaysAgain place e e')
    (name : String) : SaysAgain place (e.named name) (e'.named name) := by
  unfold SyntaxError.named
  rw [h.template]
  split
  · exact ⟨h.message, h.line, rfl⟩
  · exact h

/-- Two readings that fail alike, or that give nodes that differ in remarks only. -/
def ReadAlike (place : Int → Int) : Except SyntaxError (List Node) →
    Except SyntaxError (List Node) → Prop
  | .error e, .error e' => SaysAgain place e e'
  | .ok nodes, .ok nodes' => bareAll nodes' = bareAll nodes
  | _, _ => False

theorem said_moved (place : Int → Int) (tokens : List Token) :
    (tokens.map (Token.moved place)).map Token.said = tokens.map Token.said := by
  rw [List.map_map]
  rfl

/-- All tokens before the token of the end are marks that are read. -/
theorem marksBeforeEnd_concat {tokens : List Token} (h : ∀ t ∈ tokens, t.kind ≠ .finish)
    {e : Token} (he : e.kind = .finish) :
    marksBeforeEnd (tokens ++ [e]) = tokens.map Token.said := by
  induction tokens with
  | nil => simp [marksBeforeEnd, Nesting.beforeEnd, he]
  | cons t ts ih =>
    obtain ⟨ht, hts⟩ := List.forall_mem_cons.1 h
    rw [List.cons_append, marksBeforeEnd_cons ht, ih hts]
    rfl

/-- The verdicts on tokens and on the same tokens with a remark among them. -/
theorem check_insert {x : Token} (hx : x.IsRemark) (place : Int → Int) (before after : List Token)
    (last last' : Int) :
    Nesting.check (before.map (Token.moved place) ++ x :: after.map (Token.moved place) ++
        [Token.finishAt last']) =
      (Nesting.check (before ++ after ++ [Token.finishAt last])).mapError
        (Nesting.Refusal.moved place) := by
  unfold Nesting.check
  rw [Nesting.checkFrom_concat_finish rfl, Nesting.checkFrom_concat_finish rfl,
    Nesting.checkFrom_insert hx, ← List.map_append]
  exact Nesting.checkFrom_moved [] (before ++ after)

/-- Tokens with a remark among them are read like those without it. -/
theorem ofTokens_insert {x : Token} (hx : x.IsRemark) (place : Int → Int)
    {before after : List Token} (hend : ∀ t ∈ before ++ after, t.kind ≠ .finish)
    (last last' : Int) :
    ReadAlike place (ofTokens (before ++ after ++ [Token.finishAt last]))
      (ofTokens (before.map (Token.moved place) ++ x :: after.map (Token.moved place) ++
        [Token.finishAt last'])) := by
  cases hshort : ofTokens (before ++ after ++ [Token.finishAt last]) with
  | error e =>
    -- the verdicts on nesting tell the two errors
    have hcheck := check_insert hx place before after last last'
    rw [check_of_ofTokens_error hshort] at hcheck
    cases hlong : ofTokens (before.map (Token.moved place) ++
        x :: after.map (Token.moved place) ++ [Token.finishAt last']) with
    | ok nodes =>
      rw [check_of_ofTokens_ok hlong] at hcheck
      cases hcheck
    | error e' =>
      rw [check_of_ofTokens_error hlong] at hcheck
      obtain ⟨hmessage, hline⟩ := Prod.mk.inj (Except.error.inj hcheck)
      exact ⟨hmessage, hline,
        (template_of_ofTokens hlong).trans (template_of_ofTokens hshort).symm⟩
  | ok nodes =>
    have hspelled := spelled_of_ofTokens hshort
    rw [marksBeforeEnd_concat hend rfl, List.map_append] at hspelled
    obtain ⟨nodes', hspelled', hbare⟩ := hspelled.insert hx rfl
    have hmarks : (before.map (Token.moved place) ++ x :: after.map (Token.moved place)).map
        Token.said = before.map Token.said ++ x.said :: after.map Token.said := by
      rw [List.map_append, List.map_cons, said_moved, said_moved]
    rw [ofTokens_of_spelled hspelled' hmarks last']
    exact hbare

end Node

namespace Template

/-- A text that is not scanned is refused for the same reason. -/
theorem parse_of_scan_error {text : String} {e : SyntaxError}
    (h : scanAll (split text.toList) = .error e) : parse text = .error e := by
  simp only [parse, Token.scan, h, Except.map]

/-- A text that is scanned is read from its tokens and the end behind the last line. -/
theorem parse_of_scan_ok {text : String} {tokens : List Token}
    (h : scanAll (split text.toList) = .ok tokens) :
    parse text =
      Node.ofTokens (tokens ++ [Token.finishAt (lastNumber (split text.toList))]) := by
  simp only [parse, Token.scan, h, Except.map]

/-- A text with a remark line in it is read like the text without that line. -/
theorem parse_insert (l : RemarkLine) {a : String} (ha : a = "" ∨ a.toList.getLast? = some '\n')
    (b : String) :
    Node.ReadAlike (behind (split a.toList).length)
      (parse (a ++ b)) (parse (a ++ l.text ++ b)) := by
  have hends := ends_toList ha
  obtain ⟨after, ending, hafter, hbodies⟩ := l.exists_bodies
  have hlength : (split a.toList).length = (bodies a.toList).length := length_numbered _ _
  have hshort : split (a ++ b).toList = numbered 1 (bodies a.toList ++ bodies b.toList) := by
    rw [split, String.toList_append, bodies_append_of_ends hends]
  have hlong : split (a ++ l.text ++ b).toList = numbered 1 (bodies a.toList ++
      (l.before ++ l.tag.chars ++ after, ending) :: bodies b.toList) := by
    rw [split, String.toList_append, String.toList_append, RemarkLine.text, String.toList_ofList,
      List.append_assoc, bodies_append_of_ends hends, hbodies]
  have hline := l.scan_eq hafter (1 + (bodies a.toList).length) ending
  -- the lines behind are scanned alike, one number further
  obtain ⟨herror, hok⟩ := scanAll_insert (bodies b.toList) hline
  rw [hlength]
  cases hscan : scanAll (numbered 1 (bodies a.toList ++ bodies b.toList)) with
  | error e =>
    rw [parse_of_scan_error (hshort ▸ hscan), parse_of_scan_error (hlong ▸ herror e hscan)]
    exact ⟨rfl, rfl, rfl⟩
  | ok tokens =>
    obtain ⟨before, later, rfl, hscan'⟩ := hok tokens hscan
    rw [parse_of_scan_ok (hshort ▸ hscan), parse_of_scan_ok (hlong ▸ hscan')]
    apply Node.ofTokens_insert (l.isRemark_token _ _)
    exact fun t ht => kind_ne_finish_of_scanAll hscan ht

end Template

end Mustache
