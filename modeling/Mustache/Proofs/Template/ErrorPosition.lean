import Mustache.Proofs.Template.Insertion

/-!
# Where errors point

What is wrong with a template is said of one line of its text. The scanner goes over all lines
before any section is looked at, so the first line that it refuses is the one, whatever is wrong
with the sections before it. If it refuses none, the error is that of the nesting of sections, and
points at the tag that opens or closes the section at fault. Either way there is a tag, or the
beginning of one, on the line.

A line is scanned in the same way under any number. If it is given its own number once more,
nothing changes, and so every token and every error of a line has the line's number.
-/

namespace Mustache

open SyntaxError

namespace Line

/-- What the scanner refuses a line for. -/
def refusal? (line : Line) : Option SyntaxError :=
  match line.scan with
  | .error e => some e
  | .ok _ => none

variable {line : Line} {e : SyntaxError} {tokens : List Token} {t : Token}

/-! ## Tokens and errors of a line -/

theorem scan_eq_carry (line : Line) :
    line.scan =
      carry (fun _ => line.number) (List.map (Token.moved fun _ => line.number)) line.scan :=
  scan_moved rfl line.body line.ending

/-- An error of a line has the number of the line. -/
theorem line_of_scan_error (h : line.scan = .error e) : e.line = line.number := by
  have hcarry := line.scan_eq_carry
  rw [h] at hcarry
  rw [Except.error.inj hcarry]
  rfl

theorem line_of_mem_scan (h : line.scan = .ok tokens) (ht : t ∈ tokens) :
    t.line = line.number := by
  have hcarry := line.scan_eq_carry
  rw [h] at hcarry
  rw [Except.ok.inj hcarry] at ht
  obtain ⟨u, -, rfl⟩ := List.mem_map.1 ht
  rfl

/-- A line on which no tag begins is scanned to text only. -/
theorem scan_of_apart (h : Apart '{' '{' line.body) :
    line.scan = .ok (Token.ofText (line.body ++ line.ending.chars) line.number 1) := by
  rw [scan, Layout.cuts_of_none (cut_eq_none_iff.2 h)]
  rfl

/-- Where something is refused, a tag begins on the line. -/
theorem braces_of_scan_error (h : line.scan = .error e) : ['{', '{'] <:+: line.body := by
  apply Classical.byContradiction
  intro happart
  rw [scan_of_apart happart] at h
  cases h

/-- Where there is a token other than text, a tag begins on the line. -/
theorem braces_of_mem_scan (h : line.scan = .ok tokens) (ht : t ∈ tokens) (hkind : t.kind ≠ .text) :
    ['{', '{'] <:+: line.body := by
  apply Classical.byContradiction
  intro happart
  rw [scan_of_apart happart] at h
  obtain rfl := Except.ok.inj h
  unfold Token.ofText at ht
  split at ht
  · cases ht
  · obtain rfl := List.mem_singleton.1 ht
    exact hkind rfl

/-! ## No line knows the template -/

theorem template_of_ofNamed {kind : Token.Kind} {name content : List Char} {number column : Nat}
    (h : Token.ofNamed kind name content number column = .error e) : e.template = "" := by
  unfold Token.ofNamed at h
  split at h
  · rw [← Except.error.inj h]; rfl
  · cases h

theorem template_of_ofTag {content : List Char} {number column : Nat}
    (h : Token.ofTag content number column = .error e) : e.template = "" := by
  unfold Token.ofTag at h
  split at h
  · rw [← Except.error.inj h]; rfl
  · split at h
    · exact template_of_ofNamed h
    · rw [← Except.error.inj h]; rfl
  · split at h
    · exact template_of_ofNamed h
    · cases h
    · cases h
    · exact template_of_ofNamed h

/-- Scanning knows of no template, so its errors name none. -/
theorem template_of_cuts {number column : Nat} {s : List Char}
    (h : cuts number column s = .error e) : e.template = "" := by
  induction hlength : s.length using Nat.strongRecOn generalizing column s with
  | ind length ih =>
  cases hcut : cut '{' '{' s with
  | none =>
    rw [Layout.cuts_of_none hcut] at h
    cases h
  | some found =>
    obtain ⟨before, opened⟩ := found
    rw [Layout.cuts_of_some hcut] at h
    split at h
    · rw [← Except.error.inj h]; rfl
    · rw [← Except.error.inj h]; rfl
    -- the rest behind a tag is shorter, which is what the induction is on
    · next content rest hstray htag =>
      have hlt : rest.length < length := by
        have hrest := length_lt_of_takeTag htag
        rw [← hlength, eq_of_cut hcut]
        simp only [List.length_append, List.length_cons]
        omega
      rcases bind_eq_error_iff.1 h with htoken | ⟨token, -, hmore⟩
      · exact template_of_ofTag htoken
      · rcases bind_eq_error_iff.1 hmore with hcuts | ⟨c, -, hend⟩
        · exact ih _ hlt hcuts rfl
        · cases hend

theorem template_of_scan (h : line.scan = .error e) : e.template = "" :=
  template_of_cuts (map_eq_error_iff.1 h)

/-! ## All lines -/

/-- The first line that is refused is what the scanner stops at. -/
theorem scanAll_eq_findSome? (lines : List Line) :
    match lines.findSome? refusal? with
    | some e => scanAll lines = .error e
    | none => ∃ tokens, scanAll lines = .ok tokens := by
  induction lines with
  | nil => exact ⟨[], rfl⟩
  | cons line rest ih =>
    rw [List.findSome?_cons, scanAll]
    cases hscan : line.scan with
    | error e => simp only [refusal?, hscan]
    | ok tokens =>
      simp only [refusal?, hscan]
      cases hrest : rest.findSome? refusal? with
      | some e =>
        rw [hrest] at ih
        exact map_eq_error_iff.2 ih
      | none =>
        rw [hrest] at ih
        obtain ⟨later, hlater⟩ := ih
        exact ⟨tokens ++ later, map_eq_ok_iff.2 ⟨later, hlater, rfl⟩⟩

/-- The first refusal is that of a line. -/
theorem exists_line_of_findSome? {lines : List Line} (h : lines.findSome? refusal? = some e) :
    ∃ line ∈ lines, line.scan = .error e := by
  obtain ⟨line, hline, hrefusal⟩ := List.exists_of_findSome?_eq_some h
  refine ⟨line, hline, ?_⟩
  unfold refusal? at hrefusal
  split at hrefusal
  · next e' hscan => rw [hscan, Option.some.inj hrefusal]
  · cases hrefusal

/-- Every token stands on one of the lines. -/
theorem exists_line_of_scanAll {lines : List Line} (h : scanAll lines = .ok tokens)
    (ht : t ∈ tokens) : ∃ line ∈ lines, ∃ here, line.scan = .ok here ∧ t ∈ here := by
  induction lines generalizing tokens with
  | nil =>
    obtain rfl := Except.ok.inj h
    cases ht
  | cons line rest ih =>
    rw [scanAll] at h
    split at h
    · cases h
    · next here hhere =>
      obtain ⟨later, hlater, rfl⟩ := map_eq_ok_iff.1 h
      rcases List.mem_append.1 ht with hmem | hmem
      · exact ⟨line, List.mem_cons_self, here, hhere, hmem⟩
      · obtain ⟨other, hother, hfound⟩ := ih hlater hmem
        exact ⟨other, List.mem_cons_of_mem line hother, hfound⟩

/-- Lines are numbered one after the other. -/
theorem number_of_getElem? {first : Nat} {lines : List (List Char × LineEnding)} {i : Nat}
    (h : (numbered first lines)[i]? = some line) : line.number = first + i := by
  induction lines generalizing first i with
  | nil => cases h
  | cons entry rest ih =>
    obtain ⟨body, ending⟩ := entry
    cases i with
    | zero => exact (Option.some.inj h) ▸ rfl
    | succ i =>
      have hnumber : line.number = first + 1 + i := ih h
      omega

end Line

/-! ## Sections -/

namespace Nesting

variable {opened after tokens : List Token} {t : Token} {r : Refusal}

/-- Only a closing tag is refused before the end, and that on its own line. -/
theorem of_step_error (h : step opened t = .error r) : t.kind ≠ .text ∧ t.line = r.2 := by
  unfold step at h
  split at h
  · cases h
  · cases h
  · next hkind =>
    refine ⟨by rw [hkind]; decide, ?_⟩
    split at h
    · rw [← Except.error.inj h]
    · split at h
      · cases h
      · rw [← Except.error.inj h]
  · cases h

/-- The tokens that are open are those from before and perhaps a new one, which is no text. -/
theorem mem_of_step_ok (h : step opened t = .ok after) {u : Token} (hu : u ∈ after) :
    u ∈ opened ∨ u = t ∧ t.kind ≠ .text := by
  unfold step at h
  split at h
  · next hkind =>
    obtain rfl := Except.ok.inj h
    rcases List.mem_cons.1 hu with rfl | hmem
    · exact .inr ⟨rfl, by rw [hkind]; decide⟩
    · exact .inl hmem
  · next hkind =>
    obtain rfl := Except.ok.inj h
    rcases List.mem_cons.1 hu with rfl | hmem
    · exact .inr ⟨rfl, by rw [hkind]; decide⟩
    · exact .inl hmem
  · split at h
    · cases h
    · split at h
      · obtain rfl := Except.ok.inj h
        exact .inl (List.mem_cons_of_mem _ hu)
      · cases h
  · obtain rfl := Except.ok.inj h
    exact .inl hu

/-- At the end the token that is still open is refused. -/
theorem exists_token_of_settle (hopened : ∀ t ∈ opened, t.kind ≠ .text)
    (h : settle opened = .error r) (tokens : List Token) :
    ∃ t, (t ∈ opened ∨ t ∈ tokens) ∧ t.kind ≠ .text ∧ t.line = r.2 := by
  cases opened with
  | nil => cases h
  | cons o outer =>
    have ho : o ∈ o :: outer := List.mem_cons_self
    exact ⟨o, .inl ho, hopened o ho, by rw [← Except.error.inj h]⟩

/-- The nesting of sections is refused at the line of a tag, one that is open or one to come. -/
theorem exists_token_of_checkFrom (hopened : ∀ t ∈ opened, t.kind ≠ .text)
    (h : checkFrom opened tokens = .error r) :
    ∃ t, (t ∈ opened ∨ t ∈ tokens) ∧ t.kind ≠ .text ∧ t.line = r.2 := by
  induction tokens generalizing opened with
  | nil => exact exists_token_of_settle hopened h []
  | cons t ts ih =>
    by_cases hf : t.kind = .finish
    · rw [checkFrom_of_finish hf] at h
      exact exists_token_of_settle hopened h (t :: ts)
    · rw [checkFrom_cons hf] at h
      rcases bind_eq_error_iff.1 h with hstep | ⟨after, hstep, hrest⟩
      · exact ⟨t, .inr List.mem_cons_self, of_step_error hstep⟩
      · have hafter : ∀ u ∈ after, u.kind ≠ .text := by
          intro u hu
          rcases mem_of_step_ok hstep hu with hmem | ⟨rfl, hkind⟩
          · exact hopened u hmem
          · exact hkind
        obtain ⟨u, hu, hfound⟩ := ih hafter hrest
        refine ⟨u, ?_, hfound⟩
        rcases hu with hmem | hmem
        · rcases mem_of_step_ok hstep hmem with hmem | ⟨rfl, -⟩
          · exact .inl hmem
          · exact .inr List.mem_cons_self
        · exact .inr (List.mem_cons_of_mem t hmem)

end Nesting

namespace Template

open Line

variable {text name : String} {e : SyntaxError}

/-- An error that names no template is given the name. -/
theorem template_named (h : e.template = "") (name : String) : (e.named name).template = name := by
  unfold SyntaxError.named
  by_cases hname : name = ""
  · simp [h, hname]
  · simp [h, hname]

/-- Naming an error leaves its problem. -/
theorem problem_named (e : SyntaxError) (name : String) : (e.named name).problem = e.problem := by
  unfold SyntaxError.named
  split <;> rfl

theorem line_named (e : SyntaxError) (name : String) : (e.named name).line = e.line := by
  unfold SyntaxError.named
  split <;> rfl

/-- An error of a compilation is one of the text, with the name added. -/
theorem parse_of_compile_error (h : compile text name = .error e) :
    ∃ e', parse text = .error e' ∧ e = e'.named name := by
  unfold compile at h
  split at h
  · next e' hparse => exact ⟨e', hparse, (Except.error.inj h).symm⟩
  · cases h

/-- What is wrong with a text is said of one of its lines, and on that line a tag begins. -/
theorem exists_line_of_parse (h : parse text = .error e) :
    e.template = "" ∧ ∃ line ∈ split text.toList, e.line = line.number ∧
      ['{', '{'] <:+: line.body := by
  have hlines := scanAll_eq_findSome? (split text.toList)
  cases hfound : (split text.toList).findSome? refusal? with
  | some e' =>
    rw [hfound] at hlines
    rw [parse_of_scan_error hlines] at h
    obtain rfl := Except.error.inj h
    obtain ⟨line, hline, hscan⟩ := exists_line_of_findSome? hfound
    exact ⟨template_of_scan hscan, line, hline, line_of_scan_error hscan,
      braces_of_scan_error hscan⟩
  | none =>
    rw [hfound] at hlines
    obtain ⟨tokens, hscan⟩ := hlines
    rw [parse_of_scan_ok hscan] at h
    have hcheck := Node.check_of_ofTokens_error h
    rw [Nesting.check, Nesting.checkFrom_concat_finish rfl] at hcheck
    obtain ⟨t, ht, hkind, hline⟩ := Nesting.exists_token_of_checkFrom (by simp) hcheck
    obtain ⟨line, hmem, here, hhere, ht⟩ :=
      exists_line_of_scanAll hscan (ht.resolve_left List.not_mem_nil)
    exact ⟨Node.template_of_ofTokens h, line, hmem,
      hline.symm.trans (line_of_mem_scan hhere ht), braces_of_mem_scan hhere ht hkind⟩

/-- The name that an error of a compilation carries, and the line that it points at. -/
theorem place_of_compile_error (h : compile text name = .error e) :
    e.template = name ∧ ∃ n line, e.line = (n + 1 : Nat) ∧ (split text.toList)[n]? = some line ∧
      ['{', '{'] <:+: line.body := by
  obtain ⟨e', hparse, rfl⟩ := parse_of_compile_error h
  obtain ⟨htemplate, line, hmem, hline, hbraces⟩ := exists_line_of_parse hparse
  obtain ⟨n, hn⟩ := List.getElem?_of_mem hmem
  have hnumber : line.number = 1 + n := number_of_getElem? hn
  refine ⟨template_named htemplate name, n, line, ?_, hn, hbraces⟩
  rw [line_named, hline, hnumber, Nat.add_comm]

/-- Which error a compilation ends with: that of the first line that the scanner refuses, if there
is one, and otherwise that of the nesting of sections. -/
theorem compile_eq_refusal (text name : String) :
    match (split text.toList).findSome? refusal? with
    | some e => compile text name = .error (e.named name)
    | none => ∃ tokens, scanAll (split text.toList) = .ok tokens ∧
        ((compile text name).map fun _ => ()).mapError Nesting.Refusal.ofError =
          Nesting.check tokens := by
  have hlines := scanAll_eq_findSome? (split text.toList)
  cases hfound : (split text.toList).findSome? refusal? with
  | some e =>
    rw [hfound] at hlines
    simp only [compile, parse_of_scan_error hlines]
  | none =>
    rw [hfound] at hlines
    obtain ⟨tokens, hscan⟩ := hlines
    refine ⟨tokens, hscan, ?_⟩
    -- the token of the end adds nothing to the verdict
    have hend (last : Int) : Nesting.check (tokens ++ [Token.finishAt last]) =
        Nesting.check tokens :=
      Nesting.checkFrom_concat_finish rfl [] tokens
    rw [compile, parse_of_scan_ok hscan, ← hend (lastNumber (split text.toList))]
    cases hread : Node.ofTokens (tokens ++ [Token.finishAt (lastNumber (split text.toList))]) with
    | error e =>
      rw [Node.check_of_ofTokens_error hread]
      show Except.error (Nesting.Refusal.ofError (e.named name)) = _
      rw [Nesting.Refusal.ofError, problem_named, line_named]
      rfl
    | ok nodes =>
      rw [Node.check_of_ofTokens_ok hread]
      rfl

end Template

end Mustache
