import Mustache.Yaml.Problem

/-!
# Reading a document

The characters that matter for the layout of a document, and a place in its text. What stands
behind the last character is seen as NUL, which no document holds.
-/

namespace Mustache.Yaml

/-- What is seen behind the last character. -/
def nul : Char := Char.ofNat 0

/-- Whether a character may stand in a document. -/
def isReadable (c : Char) : Bool :=
  let n := c.toNat
  n == 9 || n == 10 || n == 13 || (0x20 ≤ n && n ≤ 0x7e) || n == 0x85
    || (0xa0 ≤ n && n ≤ 0xd7ff) || (0xe000 ≤ n && n ≤ 0xfffd) || 0x10000 ≤ n

/-- Whether a character ends the content of a line. -/
def isEnd (c : Char) : Bool := c == nul || c == '\n' || c == '\r' || c.toNat == 0x85

/-- Whether a character separates an indicator from what follows it. -/
def isGap (c : Char) : Bool := isEnd c || c == ' ' || c == '\t'

/-- Whether a character breaks lines. -/
def isBreak (c : Char) : Bool :=
  c == '\n' || c == '\r' || c.toNat == 0x85 || c.toNat == 0x2028 || c.toNat == 0x2029

/-- Whether a character is a blank within a line. -/
def isSpace (c : Char) : Bool := c == ' ' || c == '\t'

/-- The character that stands behind an indicator's word or the end of a line. -/
def endsWord (c : Char) : Bool := c == nul || c == ' ' || isBreak c

/-- The line break at the front of a text: the character it stands for and its width. -/
def lineBreak? : List Char → Option (Char × Nat)
  | '\r' :: '\n' :: _ => some ('\n', 2)
  | c :: _ =>
    if c == '\n' || c == '\r' || c.toNat == 0x85 then some ('\n', 1)
    else if isBreak c then some (c, 1)
    else none
  | [] => none

/-- Whether a text starts with three times a mark and a gap. -/
def startsMark (mark : Char) : List Char → Bool
  | a :: b :: c :: rest => a == mark && b == mark && c == mark && isGap (rest.headD nul)
  | _ => false

/-- Whether a text starts with a mark between documents. -/
def startsSeparator (s : List Char) : Bool := startsMark '-' s || startsMark '.' s

/-- A place in the text of a document. Lines and columns count from 0. -/
structure Reader where
  rest : List Char
  index : Nat := 0
  line : Nat := 0
  column : Nat := 0
deriving Repr

namespace Reader

/-- The character at the place. -/
def peek (r : Reader) : Char := r.rest.headD nul

/-- The character a number of steps behind the place. -/
def peekAt (r : Reader) (n : Nat) : Char := (r.rest[n]?).getD nul

/-- The place one character on. A byte-order mark takes no column. -/
def next (r : Reader) : Reader :=
  match r.rest with
  | [] => r
  | c :: rest =>
    if c == '\n' || (c == '\r' && rest.head? != some '\n') then ⟨rest, r.index + 1, r.line + 1, 0⟩
    else if c.toNat == 0xfeff then { r with rest, index := r.index + 1 }
    else ⟨rest, r.index + 1, r.line, r.column + 1⟩

/-- The place a number of characters on. -/
def skip (r : Reader) : Nat → Reader
  | 0 => r
  | n + 1 => r.next.skip n

/-- The place at which only `rest` is left. -/
def skipTo (r : Reader) (rest : List Char) : Reader := r.skip (r.rest.length - rest.length)

end Reader

/-- What scanning a scalar or a word gives: its text and the place behind it. -/
structure Scanned where
  text : List Char
  reader : Reader

/-- The number of blanks, comments and line breaks at the front of a text, and whether there is a
line break among them. Tabs are blanks only between brackets. -/
def leadingBlanks (inFlow inComment : Bool) : List Char → Nat × Bool
  | [] => (0, false)
  | c :: s =>
    let ends := if inComment then isEnd c else isBreak c
    if ends then ((leadingBlanks inFlow false s).1 + 1, true)
    else if inComment || c == '#' then
      let (n, crossed) := leadingBlanks inFlow true s
      (n + 1, crossed)
    else if c == ' ' || (inFlow && c == '\t') then
      let (n, crossed) := leadingBlanks inFlow false s
      (n + 1, crossed)
    else (0, false)

end Mustache.Yaml
