import Mustache.Template.Token

/-!
# A cursor over tokens

Reading moves one cursor forward through a list of tokens, and the same cursor keeps the sections
that are open. Past the last token it stays and shows the end.
-/

namespace Mustache

/-- A place in a list of tokens. -/
structure Cursor where
  /-- The tokens that have been read, last first. -/
  past : List Token
  /-- The tokens that have not been read. -/
  rest : List Token
  /-- The tokens that opened a section not yet closed, innermost first. -/
  opened : List Token
deriving DecidableEq, Repr

namespace Cursor

/-- A cursor before the first token. -/
def ofTokens (tokens : List Token) : Cursor := ⟨[], tokens, []⟩

/-- All tokens. -/
def tokens (c : Cursor) : List Token := c.past.reverse ++ c.rest

/-- The number of tokens read. -/
def position (c : Cursor) : Nat := c.past.length

/-- What stands behind the last token. -/
def finish (c : Cursor) : Token := Token.finishAt ((c.tokens.getLast?.map Token.line).getD 1)

/-- The token at the cursor. -/
def current (c : Cursor) : Token := c.rest.head?.getD c.finish

/-- The token at a distance from the cursor. A place before the first token counts from the end of
the list, and there is none further ahead than the list is long. -/
def peek? (c : Cursor) (distance : Int) : Option Token :=
  let all := c.tokens
  let place := c.position + distance
  if (all.length : Int) ≤ place then some c.finish
  else if 0 ≤ place then all[place.toNat]?
  else if -place ≤ all.length then all[(place + all.length).toNat]?
  else none

/-- The cursor after the current token. -/
def advance (c : Cursor) : Cursor :=
  match c.rest with
  | [] => c
  | t :: ts => { c with past := t :: c.past, rest := ts }

/-- Whether no token is left before the end. -/
def atEnd (c : Cursor) : Bool := c.current.kind == .finish

/-- Whether the current token is of one of some kinds. -/
def isOneOf (c : Cursor) (kinds : List Token.Kind) : Bool := kinds.contains c.current.kind

/-- Opens a section. -/
def openSection (c : Cursor) (t : Token) : Cursor := { c with opened := t :: c.opened }

/-- Closes the innermost section, if one is open. -/
def closeSection? (c : Cursor) : Option (Token × Cursor) :=
  match c.opened with
  | [] => none
  | t :: ts => some (t, { c with opened := ts })

/-- The number of open sections. -/
def depth (c : Cursor) : Nat := c.opened.length

@[simp] theorem tokens_advance (c : Cursor) : c.advance.tokens = c.tokens := by
  unfold advance
  split
  · rfl
  · next t ts h => simp [tokens, h]

end Cursor

end Mustache
