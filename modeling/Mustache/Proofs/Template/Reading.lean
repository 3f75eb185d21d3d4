import Mustache.Proofs.Failing
import Mustache.Template.Parse

/-!
# The reading of nodes, case by case

`Node.read` carries the proof that it never goes back, which is what makes it end. `Node.reading`
is the same reading without that proof. One equation for each kind of token says what it does, and
every later fact about the reading follows from these equations alone.
-/

namespace Mustache

namespace Token

/-- Whether a token opens a section. -/
def opensSection (t : Token) : Bool := t.kind == .sectionStart || t.kind == .invertedStart

/-- An opening tag is neither the end nor text. -/
theorem kind_of_opensSection {t : Token} (h : t.opensSection = true) :
    t.kind ≠ .finish ∧ t.kind ≠ .text := by
  constructor <;>
  · intro hkind
    simp [opensSection, hkind] at h

end Token

namespace Cursor

/-- The cursor before a token that has not been read is the one that reads it. -/
theorem advance_of_rest {c : Cursor} {t : Token} {ts : List Token} (h : c.rest = t :: ts) :
    c.advance = { c with past := t :: c.past, rest := ts } := by
  simp only [advance, h]

/-- A reader that goes on has one token fewer to read. -/
theorem rest_advance {c : Cursor} {t : Token} {ts : List Token} (h : c.rest = t :: ts) :
    c.advance.rest = ts := by
  rw [advance_of_rest h]

/-- At the end, a token that is left is the token of the end. -/
theorem kind_of_atEnd {c : Cursor} {t : Token} {ts : List Token} (h : c.atEnd = true)
    (hrest : c.rest = t :: ts) : t.kind = .finish := by
  simpa [atEnd, current, hrest] using h

/-- Before the end there is a token left. -/
theorem exists_rest_of_not_atEnd {c : Cursor} (h : c.atEnd = false) :
    ∃ t ts, c.rest = t :: ts ∧ t.kind ≠ .finish := by
  cases hrest : c.rest with
  | nil => simp [atEnd, current, hrest, finish, Token.finishAt] at h
  | cons t ts => exact ⟨t, ts, rfl, by simpa [atEnd, current, hrest] using h⟩

theorem opened_advance (c : Cursor) : c.advance.opened = c.opened := by
  unfold advance
  split <;> rfl

@[simp] theorem rest_openSection (c : Cursor) (t : Token) : (c.openSection t).rest = c.rest := rfl

@[simp] theorem opened_openSection (c : Cursor) (t : Token) :
    (c.openSection t).opened = t :: c.opened := rfl

/-- A closing tag without an open section. -/
theorem close_of_opened_nil {c : Cursor} (h : c.opened = []) (t : Token) :
    c.close t = .error (.atLine (.unexpectedClose t.value) t.line) := by
  simp only [close, closeSection?, h]

/-- A closing tag closes the innermost open section if it names it. -/
theorem close_of_opened_cons {c : Cursor} {o : Token} {outer : List Token}
    (h : c.opened = o :: outer)
    (t : Token) :
    c.close t = if t.value = o.value then .ok { c with opened := outer }
      else .error (.atLine (.mismatchedClose o.value t.value) t.line) := by
  simp only [close, closeSection?, h]

end Cursor

namespace Node

/-- The reading of nodes up to the tag that closes `opening`, or up to the end of the template. -/
def reading (opening : Option Token) (c : Cursor) : Except SyntaxError (List Node × Cursor) :=
  (read opening c).map Subtype.val

/-- What comes of a reading at the end of the template. -/
def ending (opening : Option Token) (c : Cursor) : Except SyntaxError (List Node × Cursor) :=
  match opening with
  | none => .ok ([], c)
  | some t => .error (.atLine (.unclosedSection t.value) t.line)

/-- Puts what a token stands for in front of nodes, unless the token belongs to a section. -/
def consToken (t : Token) (nodes : List Node) : List Node :=
  match t.kind with
  | .text => consText t.value nodes
  | .variable => .variable t.value true :: nodes
  | .unescaped => .variable t.value false :: nodes
  | .inclusion => .inclusion t.value :: nodes
  | .comment => .comment t.value :: nodes
  | _ => nodes

theorem map_val_atEnd (opening : Option Token) (c : Cursor) :
    (atEnd opening c).map Subtype.val = ending opening c := by
  cases opening <;> rfl

/-! ## One equation for each kind of token -/

section
variable {opening : Option Token} {c : Cursor} {t : Token} {ts : List Token}

/-- At the end of the template the reading ends. -/
theorem reading_of_atEnd (h : c.atEnd = true) : reading opening c = ending opening c := by
  rw [reading, read]
  split
  · exact map_val_atEnd opening c
  · next t ts heq =>
    rw [if_pos (Cursor.kind_of_atEnd h heq)]
    exact map_val_atEnd opening c

/-- An opening tag starts a reading of its body, and the reading goes on behind the body. -/
theorem reading_of_opensSection (h : c.rest = t :: ts) (hk : t.opensSection = true) :
    reading opening c = do
      let (body, d) ← reading (some t) (c.advance.openSection t)
      let (nodes, e) ← reading opening d
      return (.block (t.kind == .invertedStart) t.value body :: nodes, e) := by
  rw [reading, read]
  split
  · next heq => simp [h] at heq
  · next t' ts' heq =>
    obtain ⟨rfl, rfl⟩ : t = t' ∧ ts = ts' := by simpa [h] using heq
    rw [Cursor.advance_of_rest h]
    -- the two kinds that open a section are read alike
    rcases hkind : t.kind <;> simp [Token.opensSection, hkind] at hk
    all_goals
      simp only [reading, reduceCtorEq, ↓reduceIte]
      cases read (some t) (Cursor.openSection { c with past := t :: c.past, rest := ts } t) with
      | error e => rfl
      | ok body =>
        simp only [Except.map, bind, Except.bind]
        cases read opening body.val.2 with
        | error e => rfl
        | ok nodes => rfl

/-- A closing tag ends the reading. -/
theorem reading_of_sectionEnd (h : c.rest = t :: ts) (hk : t.kind = .sectionEnd) :
    reading opening c = (c.advance.close t).map fun d => ([], d) := by
  rw [reading, read]
  split
  · next heq => simp [h] at heq
  · next t' ts' heq =>
    obtain ⟨rfl, rfl⟩ : t = t' ∧ ts = ts' := by simpa [h] using heq
    rw [Cursor.advance_of_rest h]
    simp only [hk, reduceCtorEq, ↓reduceIte]
    split
    · next e hclose => rw [hclose]; rfl
    · next d hclose => exact congrArg (Except.map fun d => ([], d)) hclose.symm

/-- Any other token adds what it stands for. -/
theorem reading_of_plain (h : c.rest = t :: ts) (hf : t.kind ≠ .finish)
    (ho : t.opensSection = false) (he : t.kind ≠ .sectionEnd) :
    reading opening c = do
      let (nodes, d) ← reading opening c.advance
      return (consToken t nodes, d) := by
  rw [reading, read]
  split
  · next heq => simp [h] at heq
  · next t' ts' heq =>
    obtain ⟨rfl, rfl⟩ : t = t' ∧ ts = ts' := by simpa [h] using heq
    rw [Cursor.advance_of_rest h, reading]
    rcases hkind : t.kind <;> simp [Token.opensSection, hkind] at hf ho he
    all_goals
      simp only [reduceCtorEq, ↓reduceIte, consToken, hkind]
      cases read opening { c with past := t :: c.past, rest := ts } with
      | error e => rfl
      | ok nodes => rfl

/-- A reading never goes back. -/
theorem rest_le_of_reading {nodes : List Node} {d : Cursor}
    (h : reading opening c = .ok (nodes, d)) : d.rest.length ≤ c.rest.length := by
  obtain ⟨r, -, hval⟩ := map_eq_ok_iff.1 h
  have hle := r.property
  rw [hval] at hle
  exact hle

end

/-- Induction along a reading: at the end, at an opening tag by way of its body and of what stands
behind the body, at a closing tag, and at any other token by way of the tokens behind it. -/
theorem reading_induction {P : Option Token → Cursor → Prop}
    (atEnd : ∀ {opening c}, c.atEnd = true → P opening c)
    (nested : ∀ {opening c t ts}, c.rest = t :: ts → t.opensSection = true →
      P (some t) (c.advance.openSection t) →
      (∀ body d, reading (some t) (c.advance.openSection t) = .ok (body, d) → P opening d) →
      P opening c)
    (closed : ∀ {opening c t ts}, c.rest = t :: ts → t.kind = .sectionEnd → P opening c)
    (plain : ∀ {opening c t ts}, c.rest = t :: ts → t.kind ≠ .finish → t.opensSection = false →
      t.kind ≠ .sectionEnd → P opening c.advance → P opening c)
    (opening : Option Token) (c : Cursor) : P opening c := by
  induction hn : c.rest.length using Nat.strongRecOn generalizing opening c with
  | ind n ih =>
  cases hend : c.atEnd with
  | true => exact atEnd hend
  | false =>
    obtain ⟨t, ts, hrest, hf⟩ := Cursor.exists_rest_of_not_atEnd hend
    have hlt : c.advance.rest.length < n := by
      rw [Cursor.rest_advance hrest, ← hn, hrest]
      exact Nat.lt_succ_self _
    by_cases ho : t.opensSection = true
    · refine nested hrest ho (ih _ hlt _ _ rfl) fun body d hbody => ih _ ?_ _ _ rfl
      -- the reading of the body has not gone back
      have hle := rest_le_of_reading hbody
      rw [Cursor.rest_openSection] at hle
      exact Nat.lt_of_le_of_lt hle hlt
    · by_cases he : t.kind = .sectionEnd
      · exact closed hrest he
      · exact plain hrest hf (Bool.eq_false_iff.2 ho) he (ih _ hlt _ _ rfl)

/-- The parser reads from outside all sections, and what it leaves over is nothing. -/
theorem ofTokens_eq_reading (tokens : List Token) :
    ofTokens tokens = (reading none (Cursor.ofTokens tokens)).map Prod.fst := by
  unfold ofTokens reading
  cases read none (Cursor.ofTokens tokens) <;> rfl

/-! ## Derivations of a reading -/

/-- The readings that succeed, as derivations. -/
inductive Reads : Option Token → Cursor → List Node → Cursor → Prop
  | finished {c : Cursor} (h : c.atEnd = true) : Reads none c [] c
  | closed {opening : Option Token} {c d : Cursor} {t : Token} {ts : List Token}
      (h : c.rest = t :: ts) (hk : t.kind = .sectionEnd) (hclose : c.advance.close t = .ok d) :
      Reads opening c [] d
  | nested {opening : Option Token} {c d e : Cursor} {t : Token} {ts : List Token}
      {body nodes : List Node} (h : c.rest = t :: ts) (hk : t.opensSection = true)
      (hbody : Reads (some t) (c.advance.openSection t) body d) (hnodes : Reads opening d nodes e) :
      Reads opening c (.block (t.kind == .invertedStart) t.value body :: nodes) e
  | plain {opening : Option Token} {c d : Cursor} {t : Token} {ts : List Token} {nodes : List Node}
      (h : c.rest = t :: ts) (hf : t.kind ≠ .finish) (ho : t.opensSection = false)
      (he : t.kind ≠ .sectionEnd) (hnodes : Reads opening c.advance nodes d) :
      Reads opening c (consToken t nodes) d

/-- A reading that succeeds has a derivation. -/
theorem reads_of_reading {opening : Option Token} {c d : Cursor} {nodes : List Node}
    (h : reading opening c = .ok (nodes, d)) : Reads opening c nodes d := by
  induction opening, c using reading_induction generalizing nodes d with
  -- the end is refused inside of a section
  | @atEnd opening c hend =>
    rw [reading_of_atEnd hend] at h
    cases opening with
    | none =>
      obtain ⟨rfl, rfl⟩ : [] = nodes ∧ c = d := by simpa [ending] using h
      exact .finished hend
    | some t => cases h
  | nested hrest ho ihbody ihnodes =>
    rw [reading_of_opensSection hrest ho] at h
    obtain ⟨⟨body, d'⟩, hbody, h⟩ := bind_eq_ok_iff.1 h
    obtain ⟨⟨nodes', e⟩, hnodes, h⟩ := bind_eq_ok_iff.1 h
    obtain ⟨rfl, rfl⟩ := Prod.mk.inj (Except.ok.inj h)
    exact .nested hrest ho (ihbody hbody) (ihnodes body d' hbody hnodes)
  | closed hrest he =>
    rw [reading_of_sectionEnd hrest he] at h
    obtain ⟨d', hclose, h⟩ := map_eq_ok_iff.1 h
    obtain ⟨rfl, rfl⟩ := Prod.mk.inj h
    exact .closed hrest he hclose
  | plain hrest hf ho he ih =>
    rw [reading_of_plain hrest hf ho he] at h
    obtain ⟨⟨nodes', d'⟩, hnodes, h⟩ := bind_eq_ok_iff.1 h
    obtain ⟨rfl, rfl⟩ := Prod.mk.inj (Except.ok.inj h)
    exact .plain hrest hf ho he (ih hnodes)

end Node

end Mustache
