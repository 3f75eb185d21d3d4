import Mustache.Yaml.Reader

/-!
# Plain scalars

A scalar without quotes ends at a colon before a gap, at a comment, between brackets at a bracket
or a comma, and outside of them at a line that is not indented enough. Its lines are folded: one
line break is a blank, and of several the first one is dropped.
-/

namespace Mustache.Yaml

/-- Whether a character is an indicator between brackets. -/
def isFlowIndicator (c : Char) : Bool :=
  c == ',' || c == '[' || c == ']' || c == '\x7b' || c == '\x7d'

/-- The longest piece of a plain scalar without blanks. -/
def plainPiece (inFlow : Bool) : List Char → List Char
  | [] => []
  | c :: s =>
    if isGap c || (c == ':' && isGap (s.headD nul)) || (inFlow && isFlowIndicator c) then []
    else c :: plainPiece inFlow s

/-- The line breaks at the front of a text with blanks around them, their width, and whether a mark
between documents follows one of them. -/
def plainBreaks : List Char → List Char × Nat × Bool
  | [] => ([], 0, false)
  | '\r' :: '\n' :: s => behind '\n' 2 s (plainBreaks s)
  | c :: s =>
    if c == ' ' then
      let (breaks, width, stopped) := plainBreaks s
      (breaks, width + 1, stopped)
    else
      match lineBreak? (c :: s) with
      | none => ([], 0, false)
      | some (found, _) => behind found 1 s (plainBreaks s)
where
  /-- A line break of a width in front of `s`, unless `s` starts another document. -/
  behind (found : Char) (width : Nat) (s : List Char) (others : List Char × Nat × Bool) :
      List Char × Nat × Bool :=
    if startsSeparator s then ([found], width, true)
    else (found :: others.1, width + others.2.1, others.2.2)

/-- What stands between two pieces of a plain scalar. -/
structure PlainGap where
  /-- What the gap reads as; empty if the scalar ends before it. -/
  text : List Char
  width : Nat
  /-- Whether a line ends in it. -/
  crossed : Bool

/-- The text that line breaks stand for. -/
def folded (first : Char) (others : List Char) : List Char :=
  if first ≠ '\n' then first :: others else if others.isEmpty then [' '] else others

/-- The gap at the front of a text. -/
def plainGap (s : List Char) : PlainGap :=
  let blanks := s.takeWhile (· == ' ')
  let after := s.drop blanks.length
  match lineBreak? after with
  | none => ⟨blanks, blanks.length, false⟩
  | some (first, width) =>
    let below := after.drop width
    if startsSeparator below then ⟨[], blanks.length + width, true⟩
    else
      match plainBreaks below with
      | (_, more, true) => ⟨[], blanks.length + width + more, true⟩
      | (others, more, false) => ⟨folded first others, blanks.length + width + more, true⟩

/-- Reads the pieces of a plain scalar, each with the gap before it; tells whether a line ended in
the last gap. -/
def plainPieces (inFlow : Bool) (indent : Nat) :
    Nat → (gap : PlainGap) → (text : List Char) → Reader → Scanned × Bool
  | 0, gap, text, r => (⟨text, r⟩, gap.crossed)
  | fuel + 1, gap, text, r =>
    let piece := if r.peek == '#' then [] else plainPiece inFlow r.rest
    if piece.isEmpty then (⟨text, r⟩, gap.crossed)
    else
      let text := text ++ gap.text ++ piece
      let behind := r.skip piece.length
      let gap := plainGap behind.rest
      let r := behind.skip gap.width
      if gap.text.isEmpty || (!inFlow && r.column < indent) then (⟨text, r⟩, gap.crossed)
      else plainPieces inFlow indent fuel gap text r

/-- Reads a plain scalar that goes on over lines indented by at least `indent`. -/
def plainScalar (inFlow : Bool) (indent : Nat) (r : Reader) : Scanned × Bool :=
  plainPieces inFlow indent (r.rest.length + 1) ⟨[], 0, false⟩ [] r

end Mustache.Yaml
