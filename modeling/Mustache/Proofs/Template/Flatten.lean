import Mustache.Proofs.Template.Nesting
import Mustache.Proofs.Template.Print
import Mustache.Proofs.Template.Spelling

/-!
# Nodes and tokens say the same

Flattened, nodes are a list of marks again: one for a node that has no body, and for a block its
body between two tags. Reading tokens and flattening what has been read gives the tokens back, up to
the end of the template, without the pragmas and with neighbouring texts joined. The other way
round, nodes that tokens can spell at all are what their own marks are read as.

Both directions meet at `Node.Spelled`. What a reading has passed spells the nodes that it gives,
and flattened nodes spell themselves.
-/

namespace Mustache

namespace Node

/-! ## Flattened nodes -/

mutual

/-- The marks of a node. -/
def flatten : Node → List (Token.Kind × String)
  | .text s => [(.text, s)]
  | .variable name escape => [(if escape then .variable else .unescaped, name)]
  | .block inverted name body =>
    (if inverted then .invertedStart else .sectionStart, name) ::
      (flattenAll body ++ [(.sectionEnd, name)])
  | .inclusion name => [(.inclusion, name)]
  | .comment s => [(.comment, s)]
  | .foreign => []

/-- The marks of nodes. -/
def flattenAll : List Node → List (Token.Kind × String)
  | [] => []
  | first :: rest => flatten first ++ flattenAll rest

end

/-- Puts a text in front of marks, into the first one if it is a text. -/
def pushText (s : String) : List (Token.Kind × String) → List (Token.Kind × String)
  | (.text, u) :: marks => (.text, s ++ u) :: marks
  | marks => (.text, s) :: marks

/-- Marks with every run of neighbouring texts joined into one text. -/
def joinTexts : List (Token.Kind × String) → List (Token.Kind × String)
  | [] => []
  | (.text, s) :: marks => pushText s (joinTexts marks)
  | mark :: marks => mark :: joinTexts marks

/-- Marks without pragmas. -/
def withoutPragmas (marks : List (Token.Kind × String)) : List (Token.Kind × String) :=
  marks.filter (·.1 != .pragma)

mutual

/-- Whether tokens can spell a node: in none of its bodies do two texts stand side by side, and no
node is foreign. -/
def isSpellable : Node → Bool
  | .block _ _ body => areSpellable body
  | .foreign => false
  | _ => true

/-- Whether tokens can spell nodes. -/
def areSpellable : List Node → Bool
  | [] => true
  | first :: rest =>
    isSpellable first && areSpellable rest && !(beginsWithText [first] && beginsWithText rest)

end

/-- Nodes are spellable if each of them is and no two texts meet. -/
theorem areSpellable_cons {first : Node} {rest : List Node} :
    areSpellable (first :: rest) = true ↔ isSpellable first = true ∧ areSpellable rest = true ∧
      (beginsWithText [first] = true → beginsWithText rest = false) := by
  rw [areSpellable]
  cases beginsWithText [first] <;> simp [and_assoc]

/-! ## Joining texts -/

theorem joinTexts_cons_of_ne {kind : Token.Kind} (h : kind ≠ .text) (s : String)
    (marks : List (Token.Kind × String)) :
    joinTexts ((kind, s) :: marks) = (kind, s) :: joinTexts marks := by
  rw [joinTexts]
  rintro s' heq
  exact h (Prod.mk.inj heq).1

theorem pushText_cons_of_ne {kind : Token.Kind} (h : kind ≠ .text) (s u : String)
    (marks : List (Token.Kind × String)) :
    pushText s ((kind, u) :: marks) = (.text, s) :: (kind, u) :: marks := by
  rw [pushText]
  rintro u' marks' heq
  exact h (Prod.mk.inj (List.cons.inj heq).1).1

/-- Text that is pushed stays in front of the first mark that is no text. -/
theorem pushText_append_cons {kind : Token.Kind} (h : kind ≠ .text) (s u : String)
    (before marks : List (Token.Kind × String)) :
    pushText s (before ++ (kind, u) :: marks) = pushText s before ++ (kind, u) :: marks := by
  cases before with
  | nil => exact pushText_cons_of_ne h s u marks
  | cons front before =>
    obtain ⟨kind', u'⟩ := front
    by_cases hfront : kind' = .text
    · subst hfront
      rfl
    · rw [List.cons_append, pushText_cons_of_ne hfront, pushText_cons_of_ne hfront]
      rfl

/-- A tag keeps the texts before it from those behind it. -/
theorem joinTexts_append_cons {kind : Token.Kind} (h : kind ≠ .text) (s : String)
    (before marks : List (Token.Kind × String)) :
    joinTexts (before ++ (kind, s) :: marks) = joinTexts before ++ (kind, s) ::
      joinTexts marks := by
  induction before with
  | nil => exact joinTexts_cons_of_ne h s marks
  | cons front before ih =>
    obtain ⟨kind', s'⟩ := front
    rw [List.cons_append]
    by_cases hfront : kind' = .text
    · subst hfront
      rw [joinTexts, joinTexts, ih, pushText_append_cons h]
    · rw [joinTexts_cons_of_ne hfront, joinTexts_cons_of_ne hfront, ih, List.cons_append]

/-! ## What is spelled -/

/-- Text in front of nodes is flattened as text that is pushed. -/
theorem flattenAll_consText (s : String) {nodes : List Node} (h : areSpellable nodes = true) :
    flattenAll (consText s nodes) = pushText s (flattenAll nodes) := by
  unfold consText
  split
  · rfl
  · next htext =>
    cases nodes with
    | nil => rfl
    | cons first rest =>
      have hfirst := (areSpellable_cons.1 h).1
      cases first with
      | text u => exact absurd rfl (htext u rest)
      | foreign => cases hfirst
      | «variable» name escape => cases escape <;> rfl
      | block inverted name body => cases inverted <;> rfl
      | inclusion name => rfl
      | comment u => rfl

/-- Text in front never makes two texts meet: it joins the one that is there. -/
theorem areSpellable_consText (s : String) {nodes : List Node} (h : areSpellable nodes = true) :
    areSpellable (consText s nodes) = true := by
  unfold consText
  split
  · next u rest =>
    obtain ⟨-, hrest, hapart⟩ := areSpellable_cons.1 h
    exact areSpellable_cons.2 ⟨rfl, hrest, hapart⟩
  · next htext =>
    refine areSpellable_cons.2 ⟨rfl, h, fun _ => ?_⟩
    unfold beginsWithText
    split
    · exact absurd rfl (htext _ _)
    · rfl

/-- A token that belongs to no section adds its mark, unless it is a pragma. -/
theorem flattenAll_consToken {t : Token} (hf : t.kind ≠ .finish) (ho : t.opensSection = false)
    (he : t.kind ≠ .sectionEnd) {nodes : List Node} (h : areSpellable nodes = true)
    {marks : List (Token.Kind × String)} (hmarks : flattenAll nodes = joinTexts marks) :
    flattenAll (consToken t nodes) = joinTexts (withoutPragmas [t.said] ++ marks) ∧
      areSpellable (consToken t nodes) = true := by
  have hcons {first : Node} (hfirst : isSpellable first = true)
      (hplain : beginsWithText [first] = false) : areSpellable (first :: nodes) = true :=
    areSpellable_cons.2 ⟨hfirst, h, fun htext => by rw [hplain] at htext; cases htext⟩
  obtain ⟨kind, value, line, column⟩ := t
  cases kind with
  | text =>
    refine ⟨?_, areSpellable_consText value h⟩
    exact (flattenAll_consText value h).trans (congrArg (pushText value) hmarks)
  | «variable» | unescaped | inclusion | comment =>
    exact ⟨congrArg (_ :: ·) hmarks, hcons rfl rfl⟩
  | pragma => exact ⟨hmarks, h⟩
  | sectionStart | invertedStart => cases ho
  | sectionEnd => exact absurd rfl he
  | finish => exact absurd rfl hf

/-- Flattening spelled nodes gives back the marks that spell them. -/
theorem flattenAll_of_spelled {marks : List (Token.Kind × String)} {nodes : List Node}
    (h : Spelled marks nodes) :
    flattenAll nodes = joinTexts (withoutPragmas marks) ∧ areSpellable nodes = true := by
  induction h with
  | nil => exact ⟨rfl, rfl⟩
  | @plain marks nodes t hf ho he _ ih =>
    have hconsed := flattenAll_consToken hf ho he ih.2 ih.1
    rwa [withoutPragmas, withoutPragmas, ← List.filter_append] at hconsed
  | @nested inside marks body nodes t ho _ _ ihbody ihnodes =>
    obtain ⟨hbody, hbody_spellable⟩ := ihbody
    obtain ⟨hnodes, hnodes_spellable⟩ := ihnodes
    refine ⟨?_, areSpellable_cons.2 ⟨hbody_spellable, hnodes_spellable,
      fun htext => by cases htext⟩⟩
    have hopen : (if t.kind == .invertedStart then Token.Kind.invertedStart else .sectionStart) =
        t.kind := by
      rcases hkind : t.kind <;> simp [Token.opensSection, hkind] at ho <;> rfl
    have htext := (Token.kind_of_opensSection ho).2
    have hpragma : t.kind ≠ .pragma := by rintro hkind; simp [Token.opensSection, hkind] at ho
    have hkeep : withoutPragmas (t.said :: (inside ++ (.sectionEnd, t.value) :: marks)) =
        t.said :: (withoutPragmas inside ++ (.sectionEnd, t.value) :: withoutPragmas marks) := by
      simp [withoutPragmas, Token.said, hpragma]
    -- the two tags of the block stand between the texts inside and those outside
    rw [hkeep, Token.said, joinTexts_cons_of_ne htext, joinTexts_append_cons (by simp), ← hbody,
      ← hnodes, flattenAll, flatten, hopen]
    simp

/-! ## What a reading has passed -/

/-- The mark that a reading ends behind, if it was started for an opening tag. -/
def closing : Option Token → List (Token.Kind × String)
  | none => []
  | some t => [(.sectionEnd, t.value)]

/-- The marks of tokens up to the end of the template. -/
def marksBeforeEnd (tokens : List Token) : List (Token.Kind × String) :=
  (Nesting.beforeEnd tokens).map Token.said

theorem marksBeforeEnd_cons {t : Token} (h : t.kind ≠ .finish) (tokens : List Token) :
    marksBeforeEnd (t :: tokens) = t.said :: marksBeforeEnd tokens := by
  simp [marksBeforeEnd, Nesting.beforeEnd, h]

theorem marksBeforeEnd_of_atEnd {c : Cursor} (h : c.atEnd = true) : marksBeforeEnd c.rest = [] := by
  cases hrest : c.rest with
  | nil => rfl
  | cons t ts => simp [marksBeforeEnd, Nesting.beforeEnd, Cursor.kind_of_atEnd h hrest]

/-- A reading passes marks that spell its nodes, and then the closing tag of its own section. -/
theorem spelled_of_reads {opening : Option Token} {c d : Cursor} {nodes : List Node}
    (h : Reads opening c nodes d) (hopen : c.opened.head? = opening) :
    ∃ marks, Spelled marks nodes ∧
      marksBeforeEnd c.rest = marks ++ closing opening ++ marksBeforeEnd d.rest := by
  induction h with
  | finished h => exact ⟨[], .nil, rfl⟩
  | @closed opening c d t ts h hk hclose =>
    have hrest : d.rest = ts := (Cursor.rest_of_close hclose).trans (Cursor.rest_advance h)
    refine ⟨[], .nil, ?_⟩
    rw [h, marksBeforeEnd_cons (by simp [hk]), hrest, ← hopen]
    cases hopened : c.opened with
    | nil =>
      rw [Cursor.close_of_opened_nil (by rw [Cursor.opened_advance, hopened])] at hclose
      cases hclose
    | cons o outer =>
      -- the tag closes the section that is open, so it says what the reading waits for
      rw [Cursor.close_of_opened_cons (by rw [Cursor.opened_advance, hopened])] at hclose
      split at hclose
      · next hname => simp [closing, Token.said, hk, hname]
      · cases hclose
  | @nested opening c d e t ts body nodes h hk hbody _ ihbody ihnodes =>
    obtain ⟨inside, hinside, hpassed⟩ := ihbody rfl
    have hopened : d.opened = c.opened := by
      simpa [Cursor.opened_advance] using (Nesting.checkFrom_of_reads hbody rfl).1
    obtain ⟨marks, hmarks, hpassed'⟩ := ihnodes (by rw [hopened, hopen])
    have hf := (Token.kind_of_opensSection hk).1
    rw [Cursor.rest_openSection, Cursor.rest_advance h] at hpassed
    refine ⟨_, .nested hk hinside hmarks, ?_⟩
    rw [h, marksBeforeEnd_cons hf, hpassed, hpassed']
    simp [closing]
  | @plain opening c d t ts nodes h hf ho he _ ih =>
    obtain ⟨marks, hmarks, hpassed⟩ := ih (by rw [Cursor.opened_advance, hopen])
    rw [Cursor.rest_advance h] at hpassed
    refine ⟨_, .plain hf ho he hmarks, ?_⟩
    rw [h, marksBeforeEnd_cons hf, hpassed]
    simp

/-- All that stands before the end of the template spells the nodes that it is read as. -/
theorem spelled_of_ofTokens {tokens : List Token} {nodes : List Node}
    (h : ofTokens tokens = .ok nodes) : Spelled (marksBeforeEnd tokens) nodes := by
  rw [ofTokens_eq_reading] at h
  obtain ⟨⟨nodes, d⟩, hreading, rfl⟩ := map_eq_ok_iff.1 h
  have hreads := reads_of_reading hreading
  obtain ⟨marks, hspelled, hpassed⟩ := spelled_of_reads hreads rfl
  obtain ⟨-, -, hend⟩ := Nesting.checkFrom_of_reads hreads rfl
  rw [marksBeforeEnd_of_atEnd (hend rfl)] at hpassed
  rw [closing, List.append_nil, List.append_nil] at hpassed
  exact hpassed ▸ hspelled

/-! ## Flattened nodes spell themselves -/

/-- A tag that stands for a node on its own. -/
theorem Spelled.tag {marks : List (Token.Kind × String)} {nodes : List Node}
    (h : Spelled marks nodes) (t : Token) (hf : t.kind ≠ .finish) (ho : t.opensSection = false)
    (he : t.kind ≠ .sectionEnd) {node : Node} (hnode : consToken t nodes = node :: nodes) :
    Spelled ([t.said] ++ marks) (node :: nodes) :=
  hnode ▸ Spelled.plain hf ho he h

mutual

/-- The marks of a node spell it in front of nodes, of which the first is no text if it is one. -/
theorem Spelled.flatten_append {marks : List (Token.Kind × String)} {nodes : List Node}
    (h : Spelled marks nodes) : (first : Node) → isSpellable first = true →
    (beginsWithText [first] = true → beginsWithText nodes = false) →
    Spelled (flatten first ++ marks) (first :: nodes)
  | .text s, _, hapart => by
    refine h.tag ⟨.text, s, 1, 1⟩ (by simp) rfl (by simp) ?_
    show consText s nodes = _
    unfold consText
    split
    · cases hapart rfl
    · rfl
  | .variable name true, _, _ => h.tag ⟨.variable, name, 1, 1⟩ (by simp) rfl (by simp) rfl
  | .variable name false, _, _ => h.tag ⟨.unescaped, name, 1, 1⟩ (by simp) rfl (by simp) rfl
  | .block inverted name body, hbody, _ => by
    let t : Token := ⟨if inverted then .invertedStart else .sectionStart, name, 1, 1⟩
    have hopens : t.opensSection = true := by cases inverted <;> rfl
    have hinverted : (t.kind == .invertedStart) = inverted := by cases inverted <;> rfl
    have hblock := Spelled.nested hopens (spelled_flattenAll body hbody) h
    rw [hinverted] at hblock
    rw [flatten, List.cons_append, List.append_assoc]
    exact hblock
  | .inclusion name, _, _ => h.tag ⟨.inclusion, name, 1, 1⟩ (by simp) rfl (by simp) rfl
  | .comment s, _, _ => h.tag ⟨.comment, s, 1, 1⟩ (by simp) rfl (by simp) rfl

/-- The marks of nodes that tokens can spell do spell them. -/
theorem spelled_flattenAll : (nodes : List Node) → areSpellable nodes = true →
    Spelled (flattenAll nodes) nodes
  | [], _ => .nil
  | first :: rest, h => by
    obtain ⟨hfirst, hrest, hapart⟩ := areSpellable_cons.1 h
    exact (spelled_flattenAll rest hrest).flatten_append first hfirst hapart

end

/-! ## There and back -/

/-- Flattening the nodes that tokens are read as gives what the tokens before the first end of the
template say, without the pragmas and with neighbouring texts joined; and in no body of these nodes
do two texts stand side by side. Nodes of which this holds are what their own marks, followed by the
end of the template, are read as. -/
theorem ofTokens_flattenAll :
    (∀ (tokens : List Token) (nodes : List Node), ofTokens tokens = .ok nodes →
      flattenAll nodes = joinTexts (withoutPragmas (marksBeforeEnd tokens)) ∧
        areSpellable nodes = true) ∧
    (∀ (nodes : List Node) (tokens : List Token), areSpellable nodes = true →
      tokens.map Token.said = flattenAll nodes → ∀ e : Token, e.kind = .finish →
      ∀ later, ofTokens (tokens ++ e :: later) = .ok nodes) := by
  constructor
  · intro tokens nodes h
    exact flattenAll_of_spelled (spelled_of_ofTokens h)
  · intro nodes tokens h hmarks e he later
    exact ofTokens_append_of_spelled (spelled_flattenAll nodes h) hmarks he later

/-- Two sections of one name, with a pragma between two texts and a comment between two others. -/
def sectionTokens : List Token :=
  [⟨.text, "a", 1, 1⟩, ⟨.pragma, "p", 1, 2⟩, ⟨.text, "b", 1, 3⟩, ⟨.sectionStart, "x", 1, 4⟩,
    ⟨.text, "c", 2, 1⟩, ⟨.invertedStart, "x", 2, 2⟩, ⟨.text, "", 2, 3⟩, ⟨.sectionEnd, "x", 2, 4⟩,
    ⟨.comment, "n", 2, 5⟩, ⟨.text, "d", 2, 6⟩, ⟨.sectionEnd, "x", 2, 7⟩, ⟨.text, "e", 2, 8⟩]

/-- What these tokens are read as. -/
def sectionNodes : List Node :=
  [.text "ab", .block false "x" [.text "c", .block true "x" [.text ""], .comment "n", .text "d"],
    .text "e"]

/-- Tokens that say what the nodes are flattened to, wherever they stand. -/
def flattenedTokens : List Token :=
  (flattenAll sectionNodes).map fun mark => ⟨mark.1, mark.2, 1, 1⟩

/-- A text is joined across a pragma, but neither across a comment nor across the tags of a block;
and the joined texts are read as the same nodes again. -/
theorem ofTokens_flattenAll_sections :
    ofTokens (sectionTokens ++ [Token.finishAt 2, ⟨.sectionEnd, "y", 3, 1⟩]) = .ok sectionNodes ∧
    flattenAll sectionNodes = joinTexts (withoutPragmas (sectionTokens.map Token.said)) ∧
    areSpellable sectionNodes = true ∧
    ofTokens (flattenedTokens ++ [Token.finishAt 1]) = .ok sectionNodes := by
  have hread : ofTokens (sectionTokens ++ [Token.finishAt 2, ⟨.sectionEnd, "y", 3, 1⟩]) =
      .ok sectionNodes := by with_unfolding_all rfl
  obtain ⟨hmarks, hspellable⟩ := ofTokens_flattenAll.1 _ _ hread
  have hback := ofTokens_flattenAll.2 sectionNodes flattenedTokens hspellable rfl
    (Token.finishAt 1) rfl []
  exact ⟨hread, hmarks, hspellable, hback⟩

end Node

end Mustache
