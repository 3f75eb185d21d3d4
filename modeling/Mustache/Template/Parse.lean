import Mustache.Template.Cursor
import Mustache.Template.Node
import Mustache.Template.SyntaxError

/-!
# From tokens to nodes

A section's opening tag starts a nested reading of its body on the same cursor; the reading ends
behind the closing tag, whose name has to be that of the innermost open section. Neighbouring texts
become one node, and pragmas leave no trace.
-/

namespace Mustache

namespace Cursor

/-- What a reading gives: nodes, and a cursor no further back than where it began. -/
abbrev Read (c : Cursor) : Type :=
  Except SyntaxError { r : List Node × Cursor // r.2.rest.length ≤ c.rest.length }

/-- The cursor behind a closing tag, if it closes the innermost open section. -/
def close (c : Cursor) (closing : Token) : Except SyntaxError Cursor :=
  match c.closeSection? with
  | none => .error (.atLine (.unexpectedClose closing.value) closing.line)
  | some (opening, closed) =>
    if closing.value = opening.value then .ok closed
    else .error (.atLine (.mismatchedClose opening.value closing.value) closing.line)

theorem rest_of_close {c d : Cursor} {closing : Token} (h : c.close closing = .ok d) :
    d.rest = c.rest := by
  unfold close closeSection? at h
  cases hopen : c.opened with
  | nil => simp [hopen] at h
  | cons t ts =>
    simp only [hopen] at h
    split at h
    · simpa using (Except.ok.inj h).symm ▸ rfl
    · simp at h

end Cursor

namespace Node

/-- The end of a reading: a section that is still open is an error. -/
def atEnd (opening : Option Token) (c : Cursor) : c.Read :=
  match opening with
  | none => .ok ⟨([], c), Nat.le_refl _⟩
  | some t => .error (.atLine (.unclosedSection t.value) t.line)

/-- Reads nodes up to the tag that closes `opening`, or up to the end of the template. -/
def read (opening : Option Token) (c : Cursor) : c.Read :=
  match hrest : c.rest with
  | [] => atEnd opening c
  | t :: ts =>
    if t.kind = .finish then atEnd opening c
    else
      let c₁ : Cursor := { c with past := t :: c.past, rest := ts }
      have h₁ : c₁.rest.length < c.rest.length := by simp [c₁, hrest]
      -- one node, and then the nodes behind it
      let andThen (add : List Node → List Node) (d : Cursor)
          (hd : d.rest.length < c.rest.length) : c.Read :=
        match read opening d with
        | .error e => .error e
        | .ok ⟨(nodes, d'), h⟩ => .ok ⟨(add nodes, d'), by simp at h ⊢; omega⟩
      let andSection (inverted : Bool) : c.Read :=
        match read (some t) (c₁.openSection t) with
        | .error e => .error e
        | .ok ⟨(body, d), h⟩ =>
          andThen (.block inverted t.value body :: ·) d (by simp [Cursor.openSection] at h; omega)
      match t.kind with
      | .text => andThen (consText t.value) c₁ h₁
      | .variable => andThen (.variable t.value true :: ·) c₁ h₁
      | .unescaped => andThen (.variable t.value false :: ·) c₁ h₁
      | .sectionStart => andSection false
      | .invertedStart => andSection true
      | .sectionEnd =>
        match hclose : c₁.close t with
        | .error e => .error e
        | .ok d => .ok ⟨([], d),
            by rw [show d.rest = c₁.rest from Cursor.rest_of_close hclose]; omega⟩
      | .inclusion => andThen (.inclusion t.value :: ·) c₁ h₁
      | .comment => andThen (.comment t.value :: ·) c₁ h₁
      | .pragma | .finish => andThen id c₁ h₁
termination_by c.rest.length

/-- The nodes of a list of tokens, up to the first token of its end. -/
def ofTokens (tokens : List Token) : Except SyntaxError (List Node) :=
  match read none (Cursor.ofTokens tokens) with
  | .error e => .error e
  | .ok ⟨(nodes, _), _⟩ => .ok nodes

end Node

end Mustache
