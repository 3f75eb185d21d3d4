import Mustache.Proofs.Template.Reading

/-!
# Sections nest like brackets

Whether the sections of a template nest is decided by a machine that scans the tokens once, from
left to right, with a stack of the tokens that opened a section. The reading of nodes decides it by
nested calls on one cursor, which keeps a stack of its own. Both accept the same lists of tokens,
and they refuse one with the same words at the same line.

What ties them together: a reading that was started for an opening tag has that tag on top of the
cursor's stack, and when it returns the tag is gone and the rest of the stack is as it was.
-/

namespace Mustache

namespace Nesting

/-- A refusal: its wording and the line it points at. -/
abbrev Refusal : Type := String × Int

/-- What one token does to the stack of open tokens, the innermost first. -/
def step (opened : List Token) (t : Token) : Except Refusal (List Token) :=
  match t.kind with
  | .sectionStart | .invertedStart => .ok (t :: opened)
  | .sectionEnd =>
    match opened with
    | [] => .error ("Unexpected closing tag '" ++ t.value ++ "'", t.line)
    | o :: outer =>
      if t.value = o.value then .ok outer
      else .error ("Mismatched start/end tags: " ++ o.value ++ " != " ++ t.value, t.line)
  | _ => .ok opened

/-- At the end no token may be open. -/
def settle : List Token → Except Refusal Unit
  | [] => .ok ()
  | o :: _ => .error ("Unclosed section '" ++ o.value ++ "'", o.line)

/-- The tokens before the first token of the end. -/
def beforeEnd (tokens : List Token) : List Token := tokens.takeWhile (·.kind != .finish)

/-- The verdict on tokens while some are open. -/
def checkFrom (opened tokens : List Token) : Except Refusal Unit :=
  (beforeEnd tokens).foldlM step opened >>= settle

/-- The verdict on all tokens of a template. -/
def check (tokens : List Token) : Except Refusal Unit := checkFrom [] tokens

/-! ## The machine, one token at a time -/

/-- At the end every section has to be closed. -/
theorem checkFrom_of_atEnd {c : Cursor} (h : c.atEnd = true) (opened : List Token) :
    checkFrom opened c.rest = settle opened := by
  cases hrest : c.rest with
  | nil => rfl
  | cons t ts =>
    have hk : t.kind = .finish := Cursor.kind_of_atEnd h hrest
    simp [checkFrom, beforeEnd, hk]

theorem checkFrom_cons {t : Token} (hf : t.kind ≠ .finish) (opened ts : List Token) :
    checkFrom opened (t :: ts) = step opened t >>= fun after => checkFrom after ts := by
  simp [checkFrom, beforeEnd, hf]

theorem checkFrom_of_finish {t : Token} (hf : t.kind = .finish) (opened ts : List Token) :
    checkFrom opened (t :: ts) = settle opened := by
  simp [checkFrom, beforeEnd, hf]

theorem step_of_opensSection {t : Token} (h : t.opensSection = true) (opened : List Token) :
    step opened t = .ok (t :: opened) := by
  rcases hk : t.kind <;> simp_all [Token.opensSection, step]

/-- Tokens that open and close nothing leave the stack alone. -/
theorem step_of_plain {t : Token} (ho : t.opensSection = false) (he : t.kind ≠ .sectionEnd)
    (opened : List Token) : step opened t = .ok opened := by
  rcases hk : t.kind <;> simp_all [Token.opensSection, step]

/-- The refusal that a syntax error stands for. -/
def Refusal.ofError (e : SyntaxError) : Refusal := (e.problem.message, e.line)

/-- A closing tag does to the machine's stack what it does to the cursor's. -/
theorem step_of_sectionEnd {t : Token} (h : t.kind = .sectionEnd) (c : Cursor) :
    step c.opened t = ((c.close t).map Cursor.opened).mapError Refusal.ofError := by
  simp only [step, h]
  cases hopened : c.opened with
  | nil =>
    rw [Cursor.close_of_opened_nil hopened]
    rfl
  | cons o outer =>
    rw [Cursor.close_of_opened_cons hopened]
    by_cases hname : t.value = o.value
    · simp only [if_pos hname]
      rfl
    · simp only [if_neg hname]
      rfl

/-! ## The stack of the cursor is the machine's stack -/

/-- The invariant of a reading that succeeds: it takes one token off the cursor's stack, the one it
was started for, and leaves the machine with the same work to do. Only the outermost reading, which
was started for none, goes to the end. -/
theorem checkFrom_of_reads {opening : Option Token} {c d : Cursor} {nodes : List Node}
    (h : Node.Reads opening c nodes d) (hopen : c.opened.head? = opening) :
    d.opened = c.opened.tail ∧ checkFrom c.opened c.rest = checkFrom d.opened d.rest ∧
      (opening = none → d.atEnd = true) := by
  induction h with
  | finished h =>
    -- only the outermost reading ends without a closing tag
    have hnil : _ = [] := List.head?_eq_none_iff.1 hopen
    exact ⟨by rw [hnil]; rfl, rfl, fun _ => h⟩
  | @closed opening c d t ts h hk hclose =>
    cases hopened : c.opened with
    | nil =>
      rw [Cursor.close_of_opened_nil (by rw [Cursor.opened_advance, hopened])] at hclose
      cases hclose
    | cons o outer =>
      have hstep := step_of_sectionEnd hk c.advance
      rw [hclose, Cursor.opened_advance, hopened] at hstep
      have hrest : d.rest = ts := (Cursor.rest_of_close hclose).trans (Cursor.rest_advance h)
      have houter : d.opened = outer := by
        rw [Cursor.close_of_opened_cons (by rw [Cursor.opened_advance, hopened])] at hclose
        split at hclose
        · exact Except.ok.inj hclose ▸ rfl
        · cases hclose
      refine ⟨houter, ?_, fun hnone => by simp [← hopen, hopened] at hnone⟩
      rw [h, checkFrom_cons (by simp [hk]), hstep, hrest]
      rfl
  | @nested opening c d e t ts body nodes h hk _ _ ihbody ihnodes =>
    -- the body takes the opening tag off again, so what follows starts on the old stack
    obtain ⟨hd, hcheck, -⟩ := ihbody rfl
    have hd : d.opened = c.opened := by simpa [Cursor.opened_advance] using hd
    obtain ⟨he, hcheck', hend⟩ := ihnodes (by rw [hd, hopen])
    refine ⟨by rw [he, hd], ?_, hend⟩
    rw [Cursor.opened_openSection, Cursor.rest_openSection, Cursor.opened_advance,
      Cursor.rest_advance h] at hcheck
    rw [h, checkFrom_cons (Token.kind_of_opensSection hk).1, step_of_opensSection hk]
    exact hcheck.trans hcheck'
  | @plain opening c d t ts nodes h hf ho he _ ih =>
    obtain ⟨hd, hcheck, hend⟩ := ih (by rw [Cursor.opened_advance, hopen])
    rw [Cursor.opened_advance] at hd hcheck
    refine ⟨hd, ?_, hend⟩
    rw [Cursor.rest_advance h] at hcheck
    rw [h, checkFrom_cons hf, step_of_plain ho he]
    exact hcheck

/-- A reading that fails does so where the machine does. -/
theorem checkFrom_of_error {opening : Option Token} {c : Cursor} {e : SyntaxError}
    (h : Node.reading opening c = .error e) (hopen : c.opened.head? = opening) :
    checkFrom c.opened c.rest = .error (Refusal.ofError e) := by
  induction opening, c using Node.reading_induction with
  | @atEnd opening c hend =>
    rw [checkFrom_of_atEnd hend]
    rw [Node.reading_of_atEnd hend] at h
    cases hopened : c.opened with
    | nil => rw [← hopen, hopened] at h; cases h
    | cons o outer =>
      rw [← hopen, hopened] at h
      rw [← Except.error.inj h]
      rfl
  | @nested opening c t ts hrest ho ihbody ihnodes =>
    rw [hrest, checkFrom_cons (Token.kind_of_opensSection ho).1, step_of_opensSection ho]
    rw [Node.reading_of_opensSection hrest ho] at h
    have hbody_opened : (c.advance.openSection t).opened = t :: c.opened := by
      rw [Cursor.opened_openSection, Cursor.opened_advance]
    have hbody_rest : (c.advance.openSection t).rest = ts := Cursor.rest_advance hrest
    show checkFrom (t :: c.opened) ts = _
    rw [← hbody_opened, ← hbody_rest]
    -- the failure lies in the body or behind it
    rcases bind_eq_error_iff.1 h with hbody | ⟨⟨body, d⟩, hbody, h⟩
    · exact ihbody hbody rfl
    · obtain ⟨hd, hcheck, -⟩ := checkFrom_of_reads (Node.reads_of_reading hbody) rfl
      rw [hbody_opened, List.tail_cons] at hd
      rw [hcheck]
      rcases bind_eq_error_iff.1 h with hnodes | ⟨_, _, h⟩
      · exact ihnodes body d hbody hnodes (by rw [hd, hopen])
      · cases h
  | @closed opening c t ts hrest he =>
    rw [hrest, checkFrom_cons (by rw [he]; exact nofun)]
    rw [Node.reading_of_sectionEnd hrest he] at h
    have hstep := step_of_sectionEnd he c.advance
    rw [map_eq_error_iff.1 h, Cursor.opened_advance] at hstep
    rw [hstep]
    rfl
  | @plain opening c t ts hrest hf ho he ih =>
    rw [hrest, checkFrom_cons hf, step_of_plain ho he]
    rw [Node.reading_of_plain hrest hf ho he] at h
    rcases bind_eq_error_iff.1 h with hnodes | ⟨_, _, h⟩
    · have hcheck := ih hnodes (by rw [Cursor.opened_advance, hopen])
      rw [Cursor.opened_advance, Cursor.rest_advance hrest] at hcheck
      exact hcheck
    · cases h

end Nesting

namespace Node

/-- Tokens that are refused are refused by the machine, in the same words and at the same line. -/
theorem check_of_ofTokens_error {tokens : List Token} {e : SyntaxError}
    (h : ofTokens tokens = .error e) :
    Nesting.check tokens = .error (Nesting.Refusal.ofError e) := by
  rw [ofTokens_eq_reading] at h
  exact Nesting.checkFrom_of_error (map_eq_error_iff.1 h) rfl

/-- Tokens that are read are accepted by the machine. -/
theorem check_of_ofTokens_ok {tokens : List Token} {nodes : List Node}
    (h : ofTokens tokens = .ok nodes) : Nesting.check tokens = .ok () := by
  rw [ofTokens_eq_reading] at h
  obtain ⟨r, hreading, -⟩ := map_eq_ok_iff.1 h
  obtain ⟨hopened, hcheck, hend⟩ := Nesting.checkFrom_of_reads (reads_of_reading hreading) rfl
  have hsettled : Nesting.check tokens = Nesting.settle r.2.opened :=
    hcheck.trans (Nesting.checkFrom_of_atEnd (hend rfl) r.2.opened)
  rw [hsettled, hopened]
  rfl

/-- A list of tokens is read exactly if its sections nest, and otherwise it is refused with the
words and the line of the machine's refusal. -/
theorem ofTokens_eq_check (tokens : List Token) :
    ((ofTokens tokens).map fun _ => ()).mapError Nesting.Refusal.ofError =
      Nesting.check tokens := by
  cases h : ofTokens tokens with
  | error e => exact (check_of_ofTokens_error h).symm
  | ok nodes => exact (check_of_ofTokens_ok h).symm

end Node

end Mustache
