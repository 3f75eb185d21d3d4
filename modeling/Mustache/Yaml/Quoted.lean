import Mustache.Text.Digits
import Mustache.Yaml.Plain

/-!
# Quoted scalars

Between single quotes only the quote itself is written in a special way, twice; between double
quotes a backslash starts an escape. Lines are folded as in plain scalars, and blanks around a line
break are dropped.
-/

namespace Mustache.Yaml

/-- The characters that one-letter escapes stand for. -/
def escapes : List (Char × Nat) :=
  [('0', 0), ('a', 7), ('b', 8), ('t', 9), ('\t', 9), ('n', 10), ('v', 11), ('f', 12), ('r', 13),
   ('e', 27), (' ', 32), ('"', 34), ('/', 47), ('\\', 92), ('N', 0x85), ('_', 0xa0), ('L', 0x2028),
   ('P', 0x2029)]

/-- The number of digits behind the letter of a numeric escape. -/
def escapeWidth? (c : Char) : Option Nat :=
  if c == 'x' then some 2 else if c == 'u' then some 4 else if c == 'U' then some 8 else none

/-- A number of hexadecimal digits at the front of a text. -/
def hexNumber? (width : Nat) (s : List Char) : Option Nat :=
  let digits := s.take width
  if digits.length = width && digits.all fun c => (Text.hexValue? c).isSome then
    some (Text.ofDigits 16 digits)
  else none

/-- The second half of a pair of code units, written as an escape of its own. -/
def lowSurrogate? : List Char → Option Nat
  | '\\' :: 'u' :: s =>
    match hexNumber? 4 s with
    | some n => if 0xdc00 ≤ n && n ≤ 0xdfff then some n else none
    | none => none
  | _ => none

/-- The character of a numeric escape, and the text behind it. Two halves of a pair of code units
are one character, and a half alone is a replacement character. -/
def numericEscape (width : Nat) (s : List Char) : Except Problem (Char × List Char) :=
  match hexNumber? width s with
  | none => .error .unreadable
  | some n =>
    let rest := s.drop width
    if 0x7fffffff < n then .error (.scalar .outOfRange)
    else if 0x10ffff < n then .error (.scalar .impossibleValue)
    else if 0xd800 ≤ n && n ≤ 0xdfff then
      match lowSurrogate? rest with
      | some low =>
        if n ≤ 0xdbff then
          .ok (Char.ofNat (0x10000 + (n - 0xd800) * 0x400 + (low - 0xdc00)), rest.drop 6)
        else .ok (Char.ofNat 0xfffd, rest)
      | none => .ok (Char.ofNat 0xfffd, rest)
    else .ok (Char.ofNat n, rest)

/-- The line breaks at the front of a text, and the text behind them and their blanks; `fresh` says
whether the text starts a line. A mark between documents is an error. -/
def quotedBreaks (fresh : Bool) : List Char → Except Problem (List Char × List Char)
  | [] => .ok ([], [])
  | c :: s =>
    if fresh && startsSeparator (c :: s) then .error .unreadable
    else if isSpace c then quotedBreaks false s
    else if c == '\r' && s.head? == some '\n' then
      -- the line feed counts for both
      quotedBreaks false s
    else
      match lineBreak? (c :: s) with
      | none => .ok ([], c :: s)
      | some (found, _) => (quotedBreaks true s).map fun (breaks, rest) => (found :: breaks, rest)

/-- What a gap at the front of a quoted text reads as, and the text behind it. -/
def quotedGap (s : List Char) : Except Problem (List Char × List Char) :=
  let blanks := s.takeWhile isSpace
  let after := s.drop blanks.length
  match lineBreak? after with
  | none => .ok (blanks, after)
  | some (first, width) =>
    (quotedBreaks true (after.drop width)).map fun (others, rest) => (folded first others, rest)

/-- What an escape reads as, and the text behind it. -/
def quotedEscape (s : List Char) : Except Problem (List Char × List Char) :=
  match s with
  | [] => .error .unreadable
  | c :: rest =>
    match escapes.lookup c, escapeWidth? c with
    | some n, _ => .ok ([Char.ofNat n], rest)
    | none, some width => (numericEscape width rest).map fun (found, rest) => ([found], rest)
    | none, none =>
      match lineBreak? (c :: rest) with
      | none => .error .unreadable
      | some (_, width) => quotedBreaks true ((c :: rest).drop width)

/-- The text of a quoted scalar behind its opening quote, and what is behind its closing quote. -/
def quotedText (quote : Char) : Nat → List Char → Except Problem (List Char × List Char)
  | 0, _ | _, [] => .error .unreadable
  | fuel + 1, c :: rest =>
    let andThen (found : Except Problem (List Char × List Char)) :
        Except Problem (List Char × List Char) :=
      match found with
      | .error problem => .error problem
      | .ok (text, rest) => (quotedText quote fuel rest).map
          fun (more, rest) => (text ++ more, rest)
    if c == quote then
      if quote == '\'' && rest.head? == some '\'' then andThen (.ok (['\''], rest.drop 1))
      else .ok ([], rest)
    else if quote == '"' && c == '\\' then andThen (quotedEscape rest)
    else if isSpace c || isBreak c then andThen (quotedGap (c :: rest))
    else andThen (.ok ([c], rest))

/-- Reads a quoted scalar from its opening quote on. -/
def quotedScalar (r : Reader) : Except Problem Scanned :=
  (quotedText r.peek (r.rest.length + 1) (r.rest.drop 1)).map fun (text, rest) =>
    ⟨text, r.skipTo rest⟩

end Mustache.Yaml
