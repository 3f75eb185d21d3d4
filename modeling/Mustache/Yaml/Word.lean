import Mustache.Text.Digits
import Mustache.Text.Utf8
import Mustache.Yaml.Reader
import Mustache.Yaml.Token

/-!
# Words with an indicator

Anchors, aliases, tags and directives: an indicator and the characters that belong to it.
-/

namespace Mustache.Yaml

/-- Whether a character is a letter or digit of ASCII. -/
def isAlphanumeric (c : Char) : Bool :=
  let n := c.toNat
  Text.isDigit c || (65 ≤ n && n ≤ 90) || (97 ≤ n && n ≤ 122)

/-- Whether a character may stand in the name of an anchor. -/
def isAnchorChar (c : Char) : Bool :=
  let n := c.toNat
  !isFlowPunctuation c
    && ((0x21 ≤ n && n ≤ 0x7e) || (0xa0 ≤ n && n ≤ 0xd7ff)
      || (0xe000 ≤ n && n ≤ 0xfffd && n != 0xfeff) || 0x10000 ≤ n)
where
  /-- Whether a character is a comma or a bracket. -/
  isFlowPunctuation (c : Char) : Bool :=
    c == ',' || c == '[' || c == ']' || c == '\x7b' || c == '\x7d'

/-- Whether a character may stand behind the name of an anchor. -/
def endsAnchor (c : Char) : Bool := endsWord c || c == '\t' || "?:,[]\x7b\x7d%@`".toList.contains c

/-- Reads the name behind the indicator of an anchor or an alias. -/
def anchorName (r : Reader) : Except Problem Scanned :=
  let r := r.next
  let name := r.rest.takeWhile isAnchorChar
  let behind := r.skip name.length
  if name.isEmpty || !endsAnchor behind.peek then .error .unreadable else .ok ⟨name, behind⟩

/-- Whether a character may stand in a tag as it is. -/
def isTagChar (c : Char) : Bool := isAlphanumeric c || "-;/?:@&=+$,_.!~*'()[]#".toList.contains c

/-- The bytes written by percent signs at the front of a text, and the text behind them. -/
def percentBytes : List Char → Except Problem (List UInt8 × List Char)
  | '%' :: a :: b :: s =>
    match Text.hexValue? a, Text.hexValue? b with
    | some m, some n =>
      (percentBytes s).map fun (bytes, rest) => (UInt8.ofNat (m * 16 + n) :: bytes, rest)
    | _, _ => .error .unreadable
  | '%' :: _ => .error .unreadable
  | s => .ok ([], s)

/-- Reads the characters of a tag, with percent signs and digits in place of some. -/
def tagChars : Nat → List Char → Except Problem (List Char × List Char)
  | 0, s => .ok ([], s)
  | fuel + 1, s =>
    match s with
    | [] => .ok ([], [])
    | c :: rest =>
      if c == '%' then
        match percentBytes s with
        | .error problem => .error problem
        | .ok (bytes, rest) =>
          match Text.decodeUtf8 0 0 bytes with
          | .error _ => .error .unreadable
          | .ok found => (tagChars fuel rest).map fun (more, rest) => (found ++ more, rest)
      else if isTagChar c then (tagChars fuel rest).map fun (more, rest) => (c :: more, rest)
      else .ok ([], s)

/-- Reads the characters of a tag, of which there is at least one. -/
def tagText (s : List Char) : Except Problem (List Char × List Char) :=
  match tagChars (s.length + 1) s with
  | .error problem => .error problem
  | .ok (text, rest) => if rest.length = s.length then .error .unreadable else .ok (text, rest)

/-- Reads the name of the beginning of tags: letters between exclamation marks, or one mark. -/
def tagHandle (s : List Char) : Except Problem (List Char × List Char) :=
  match s with
  | '!' :: rest =>
    if rest.head? == some ' ' then .ok (['!'], rest)
    else
      let letters := rest.takeWhile fun c => isAlphanumeric c || c == '-' || c == '_'
      match rest.drop letters.length with
      | '!' :: behind => .ok ('!' :: letters ++ ['!'], behind)
      | _ => .error .unreadable
  | _ => .error .unreadable

/-- Reads a tag and the text behind it. -/
def tagWord (s : List Char) : Except Problem (Token × List Char) := do
  let next := (s[1]?).getD nul
  if next == '<' then
    let (text, rest) ← tagText (s.drop 2)
    if rest.head? != some '>' then throw .unreadable
    return (.tag none (String.ofList text), rest.drop 1)
  else if isGap next then return (.tag none "!", s.drop 1)
  else
    let word := (s.drop 1).takeWhile fun c => !endsWord c
    if word.contains '!' then
      let (handle, rest) ← tagHandle s
      let (text, rest) ← tagText rest
      return (.tag (some (String.ofList handle)) (String.ofList text), rest)
    else
      let (text, rest) ← tagText (s.drop 1)
      return (.tag (some "!") (String.ofList text), rest)

/-- Reads a tag, which a gap within its line or the line's end follows. -/
def tagToken (r : Reader) : Except Problem (Token × Reader) := do
  let (token, rest) ← tagWord r.rest
  if !endsWord (rest.headD nul) then throw .unreadable
  return (token, r.skipTo rest)

/-- Whether a character may stand in the name of a directive. -/
def isDirectiveChar (c : Char) : Bool := isAlphanumeric c || "-_:.".toList.contains c

/-- Reads the numbers of a version. -/
def versionNumbers (s : List Char) : Except Problem (List Char) :=
  let s := s.dropWhile (· == ' ')
  match s.dropWhile Text.isDigit with
  | '.' :: rest =>
    let behind := rest.dropWhile Text.isDigit
    if (s.head?.map Text.isDigit).getD false && behind.length < rest.length
      && endsWord (behind.headD nul) then .ok behind
    else .error .unreadable
  | _ => .error .unreadable

/-- Reads what a directive gives a name to. -/
def tagShorthand (s : List Char) : Except Problem ((String × String) × List Char) := do
  let (handle, rest) ← tagHandle (s.dropWhile (· == ' '))
  if rest.head? != some ' ' then throw .unreadable
  let (text, rest) ← tagText (rest.dropWhile (· == ' '))
  if !endsWord (rest.headD nul) then throw .unreadable
  return ((String.ofList handle, String.ofList text), rest)

/-- Reads a directive to the end of its line. -/
def directiveToken (r : Reader) : Except Problem (Token × Reader) := do
  let s := r.rest.drop 1
  let name := s.takeWhile isDirectiveChar
  let rest := s.drop name.length
  if name.isEmpty || !endsWord (rest.headD nul) then throw .unreadable
  let (shorthand, rest) ←
    if name = "YAML".toList then do
      let rest ← versionNumbers rest
      pure (none, rest)
    else if name = "TAG".toList then do
      let (found, rest) ← tagShorthand rest
      pure (some found, rest)
    else pure (none, rest.dropWhile fun c => !isEnd c)
  let rest := rest.dropWhile (· == ' ')
  let rest := if rest.head? == some '#' then rest.dropWhile fun c => !isEnd c else rest
  match lineBreak? rest with
  | some (_, width) => return (.directive shorthand, r.skipTo (rest.drop width))
  | none => if rest.isEmpty then return (.directive shorthand, r.skipTo rest) else throw .unreadable

end Mustache.Yaml
