import Mustache.Proofs.Template.Reading

/-!
# What tokens spell

The nodes that come of a list of tokens depend on what the tokens say and not on where they stand.
`Node.Spelled` says which nodes a list of marks spells, without a cursor and without a stack: a tag
that opens a section, the marks of its body and a closing tag of the same name are one block. Where
marks spell nodes, a reading that comes to their tokens with any sections open reads those nodes,
and goes on behind them with the same sections open.
-/

namespace Mustache

/-- What a token says, wherever it stands. -/
def Token.said (t : Token) : Token.Kind × String := (t.kind, t.value)

namespace Node

/-- The nodes that a list of marks spells. -/
inductive Spelled : List (Token.Kind × String) → List Node → Prop
  | nil : Spelled [] []
  | plain {marks : List (Token.Kind × String)} {nodes : List Node} {t : Token}
      (hf : t.kind ≠ .finish) (ho : t.opensSection = false) (he : t.kind ≠ .sectionEnd)
      (hnodes : Spelled marks nodes) : Spelled (t.said :: marks) (consToken t nodes)
  | nested {inside marks : List (Token.Kind × String)} {body nodes : List Node} {t : Token}
      (ho : t.opensSection = true) (hbody : Spelled inside body) (hnodes : Spelled marks nodes) :
      Spelled (t.said :: (inside ++ (.sectionEnd, t.value) :: marks))
        (.block (t.kind == .invertedStart) t.value body :: nodes)

/-! ## Texts are spelled in pieces -/

/-- Joined texts go in front one by one. -/
theorem consText_append (s u : String) (nodes : List Node) :
    consText (s ++ u) nodes = consText s (consText u nodes) := by
  unfold consText
  split <;> simp [String.append_assoc]

/-- Pieces of text in front of nodes are spelled as one text. -/
theorem spelled_pieces {pieces : List (List Char)} {marks : List (Token.Kind × String)}
    {nodes : List Node} (hne : pieces ≠ []) (h : Spelled marks nodes) :
    Spelled (pieces.map (fun piece => (.text, String.ofList piece)) ++ marks)
      (consText (String.ofList pieces.flatten) nodes) := by
  induction pieces with
  | nil => exact absurd rfl hne
  | cons piece more ih =>
    have hpiece {marks nodes} (h : Spelled marks nodes) :
        Spelled ((.text, String.ofList piece) :: marks) (consText (String.ofList piece) nodes) :=
      Spelled.plain (t := ⟨.text, String.ofList piece, 1, 1⟩) (by simp) rfl (by simp) h
    cases more with
    | nil => simpa using hpiece h
    | cons next later =>
      rw [List.flatten_cons, String.ofList_append, consText_append]
      exact hpiece (ih (by simp))

/-! ## Reading what is spelled -/

section
variable (opening : Option Token) {c : Cursor} {t u : Token}

/-- A token goes in front by what it says. -/
theorem consToken_of_said (h : u.said = t.said) (nodes : List Node) :
    consToken u nodes = consToken t nodes := by
  obtain ⟨hkind, hvalue⟩ := Prod.mk.inj h
  unfold consToken
  rw [hkind, hvalue]

theorem opensSection_of_said (h : u.said = t.said) : u.opensSection = t.opensSection := by
  unfold Token.opensSection
  rw [(Prod.mk.inj h).1]

/-- A reading that comes to the closing tag of the section it was started in ends behind it. -/
theorem reading_of_closing {outer : List Token} (hopened : c.opened = t :: outer)
    {rest : List Token} (hrest : c.rest = u :: rest) (hu : u.said = (.sectionEnd, t.value)) :
    reading opening c = .ok ([], { c.advance with opened := outer }) := by
  obtain ⟨hkind, hvalue⟩ := Prod.mk.inj hu
  rw [reading_of_sectionEnd hrest hkind,
    Cursor.close_of_opened_cons (by rw [Cursor.opened_advance, hopened]), if_pos hvalue]
  rfl

/-- Where marks are spelled next, a reading gives their nodes if it ends right behind them. -/
theorem reading_of_spelled {marks later : List (Token.Kind × String)} {nodes : List Node}
    (h : Spelled marks nodes) (hc : c.rest.map Token.said = marks ++ later) :
    ∃ d : Cursor, d.opened = c.opened ∧ d.rest.map Token.said = later ∧
      ∀ e, reading opening d = .ok ([], e) → reading opening c = .ok (nodes, e) := by
  induction h generalizing opening c later with
  | nil => exact ⟨c, rfl, hc, fun _ hd => hd⟩
  | @plain marks nodes t hf ho he _ ih =>
    rw [List.cons_append] at hc
    obtain ⟨u, rest, hrest, hu, hmore⟩ := List.map_eq_cons_iff.1 hc
    obtain ⟨d, hopened, hlater, hreading⟩ := ih opening (c := c.advance)
      (by rw [Cursor.rest_advance hrest, hmore])
    refine ⟨d, hopened.trans (Cursor.opened_advance c), hlater, fun e hend => ?_⟩
    have hkind : u.kind = t.kind := (Prod.mk.inj hu).1
    rw [reading_of_plain hrest (hkind ▸ hf) ((opensSection_of_said hu).trans ho) (hkind ▸ he),
      hreading e hend, ← consToken_of_said hu]
    rfl
  | @nested inside marks body nodes t ho _ _ ihbody ihnodes =>
    rw [List.cons_append, List.append_assoc, List.cons_append] at hc
    obtain ⟨u, rest, hrest, hu, hmore⟩ := List.map_eq_cons_iff.1 hc
    obtain ⟨hkind, hvalue⟩ := Prod.mk.inj hu
    -- the body is read with its section open, up to the closing tag
    obtain ⟨d, hopened, hclosing, hbody⟩ := ihbody (some u)
      (c := c.advance.openSection u)
      (by rw [Cursor.rest_openSection, Cursor.rest_advance hrest, hmore])
    obtain ⟨w, rest', hrest', hw, hlater⟩ := List.map_eq_cons_iff.1 hclosing
    rw [Cursor.opened_openSection, Cursor.opened_advance] at hopened
    have hclosed := reading_of_closing (some u) hopened hrest' (by rw [hw, hvalue])
    -- behind the closing tag the sections are those from before
    obtain ⟨e, hopened', hlater', hnodes⟩ := ihnodes opening
      (c := { d.advance with opened := c.opened })
        (by rw [← hlater]; exact congrArg _ (Cursor.rest_advance hrest'))
    refine ⟨e, hopened', hlater', fun end' hend => ?_⟩
    rw [reading_of_opensSection hrest ((opensSection_of_said hu).trans ho), hbody _ hclosed]
    simp only [bind, Except.bind, hnodes end' hend, hkind, hvalue]
    rfl

end

/-- Tokens that say what spells nodes are read as those nodes, up to the end of the template. -/
theorem ofTokens_append_of_spelled {marks : List (Token.Kind × String)} {nodes : List Node}
    {tokens : List Token} (h : Spelled marks nodes) (hmarks : tokens.map Token.said = marks)
    {e : Token} (he : e.kind = .finish) (later : List Token) :
    ofTokens (tokens ++ e :: later) = .ok nodes := by
  obtain ⟨d, -, hrest, hreading⟩ := reading_of_spelled none
    (c := Cursor.ofTokens (tokens ++ e :: later)) h
    (show List.map Token.said (tokens ++ e :: later) = _ by rw [List.map_append, hmarks])
  obtain ⟨u, rest, hu, hsaid, -⟩ := List.map_eq_cons_iff.1 hrest
  have hend : d.atEnd = true := by
    rw [Cursor.atEnd, Cursor.current, hu]
    exact beq_iff_eq.2 ((Prod.mk.inj hsaid).1.trans he)
  rw [ofTokens_eq_reading, hreading d (reading_of_atEnd hend)]
  rfl

/-- Tokens that say what the nodes are spelled as are read as the nodes. -/
theorem ofTokens_of_spelled {marks : List (Token.Kind × String)} {nodes : List Node}
    {tokens : List Token} (h : Spelled marks nodes) (hmarks : tokens.map Token.said = marks)
    (line : Int) : ofTokens (tokens ++ [Token.finishAt line]) = .ok nodes :=
  ofTokens_append_of_spelled h hmarks rfl []

end Node

end Mustache
