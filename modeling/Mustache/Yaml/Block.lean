import Mustache.Text.Digits
import Mustache.Yaml.Plain

/-!
# Block scalars

A block scalar is the lines below its header that are indented enough. The header may fix the
indentation and says what happens to the line breaks at the end: all but one are dropped, all are
dropped, or all are kept. The lines are taken as they are or folded.
-/

namespace Mustache.Yaml

/-- What happens to the line breaks at the end of a block scalar. -/
inductive Chomping
  | clip
  | strip
  | keep
deriving DecidableEq, Repr

/-- The header of a block scalar. -/
structure BlockHeader where
  chomping : Chomping
  /-- The indentation beyond that of the block around, if it is fixed. -/
  increment : Option Nat

/-- The chomping that a sign asks for. -/
def Chomping.ofSign? (c : Char) : Option Chomping :=
  if c == '+' then some .keep else if c == '-' then some .strip else none

/-- Reads an indentation, which is not zero, from the front of a header. -/
def headerIncrement (s : List Char) : Except Problem (Option Nat × List Char) :=
  match s with
  | [] => .ok (none, s)
  | c :: rest =>
    if !Text.isDigit c then .ok (none, s)
    else if c == '0' then .error .unreadable
    else .ok (some (c.toNat - 48), rest)

/-- Reads a sign from the front of a header. -/
def headerSign (s : List Char) : Option Chomping × List Char :=
  match s with
  | [] => (none, s)
  | c :: rest =>
    match Chomping.ofSign? c with
    | some chomping => (some chomping, rest)
    | none => (none, s)

/-- Reads a header up to the end of its line: sign and indentation in either order. -/
def blockHeader (s : List Char) : Except Problem (BlockHeader × List Char) := do
  let (before, s) := headerSign s
  let (increment, s) ← headerIncrement s
  let (after, s) := if before.isNone && increment.isSome then headerSign s else (none, s)
  if !endsWord (s.headD nul) then throw .unreadable
  let s := s.dropWhile (· == ' ')
  let s := if s.head? == some '#' then s.dropWhile fun c => !isEnd c else s
  let width := match lineBreak? s with
    | some (_, width) => width
    | none => 0
  if width == 0 && !s.isEmpty then throw .unreadable
  return (⟨(before.or after).getD .clip, increment⟩, s.drop width)

/-- Skips blanks up to a column. -/
def skipIndent (indent : Nat) : Nat → Reader → Reader
  | 0, r => r
  | fuel + 1, r => if r.column < indent && r.peek == ' ' then skipIndent indent fuel r.next else r

/-- Reads empty lines of a block with a known indentation. -/
def blockBreaks (indent : Nat) : Nat → Reader → List Char × Reader
  | 0, r => ([], r)
  | fuel + 1, r =>
    let r := skipIndent indent r.rest.length r
    match lineBreak? r.rest with
    | none => ([], r)
    | some (found, width) =>
      let (breaks, r) := blockBreaks indent fuel (r.skip width)
      (found :: breaks, r)

/-- What stands before the first line of a block. -/
structure BlockLead where
  breaks : List Char
  /-- The column of the first line break, if there is one. -/
  first : Option Nat
  /-- The furthest column reached with blanks. -/
  deepest : Nat
  reader : Reader

/-- Reads empty lines before the first line of a block. -/
def blockLead : Nat → BlockLead → BlockLead
  | 0, lead => lead
  | fuel + 1, lead =>
    let r := lead.reader
    if r.peek == ' ' then
      let r := r.next
      blockLead fuel { lead with reader := r, deepest := max lead.deepest r.column }
    else
      match lineBreak? r.rest with
      | none => lead
      | some (found, width) =>
        blockLead fuel
          { lead with
            breaks := lead.breaks ++ [found]
            first := lead.first.or (some r.column)
            reader := r.skip width }

/-- The lines of a block: their text, the last line break, and the line breaks behind it. -/
structure BlockLines where
  text : List Char
  last : List Char
  breaks : List Char
  reader : Reader

/-- Reads the lines of a block; `atTop` says whether the block may hold lines without indentation,
so that a mark between documents ends it. -/
def blockLines (foldLines atTop : Bool) (indent : Nat) : Nat → BlockLines → BlockLines
  | 0, lines => lines
  | fuel + 1, lines =>
    let r := lines.reader
    if r.column ≠ indent || r.rest.isEmpty then lines
    else
      let flush := !isSpace r.peek
      let content := r.rest.takeWhile fun c => !isEnd c
      let r := r.skip content.length
      let (last, width) : List Char × Nat := match lineBreak? r.rest with
        | none => ([], 0)
        | some (found, width) => ([found], width)
      let r := r.skip width
      let (breaks, r) := blockBreaks indent (r.rest.length + 1) r
      let text := lines.text ++ lines.breaks ++ content
      let read : BlockLines := ⟨text, last, breaks, r⟩
      if atTop && r.column == 0 && startsSeparator r.rest then read
      else if r.column == indent && !r.rest.isEmpty then
        let joint :=
          if foldLines && last == ['\n'] && flush && !isSpace r.peek then
            if breaks.isEmpty then [' '] else []
          else last
        blockLines foldLines atTop indent fuel { read with text := text ++ joint }
      else read

/-- Reads a block scalar, from the character that starts its header on, in a block whose lines are
indented by at least `least`. -/
def blockScalar (foldLines : Bool) (least : Nat) (r : Reader) : Except Problem Scanned := do
  let (header, rest) ← blockHeader (r.rest.drop 1)
  let r := r.skipTo rest
  let fuel := r.rest.length + 1
  let (indent, breaks, r, atTop) ← match header.increment with
    | none =>
      let lead := blockLead fuel ⟨[], none, 0, r⟩
      let first := lead.first.getD 0
      if 0 < first && first < lead.deepest then throw .unreadable
      pure (max least lead.deepest, lead.breaks, lead.reader, least == 0)
    | some increment =>
      let indent := max least 1 + increment - 1
      let (breaks, r) := blockBreaks indent fuel r
      pure (indent, breaks, r, false)
  let lines := blockLines foldLines atTop indent fuel ⟨[], [], breaks, r⟩
  let text := lines.text ++ match header.chomping with
    | .clip => lines.last
    | .strip => []
    | .keep => lines.last ++ lines.breaks
  return ⟨text, lines.reader⟩

end Mustache.Yaml
