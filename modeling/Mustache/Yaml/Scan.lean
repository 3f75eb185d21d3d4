import Mustache.Yaml.Block
import Mustache.Yaml.Plain
import Mustache.Yaml.Quoted
import Mustache.Yaml.Word

/-!
# From text to tokens

Scanning goes from token to token with the indentation of the open blocks, the open brackets, and
the places that may turn out to be keys: a scalar, an alias or a bracket is a key only once a colon
follows on the same line, and then the token of the key is put in front of it. Each step reads at
least one character, so the length of the text ends the recursion.
-/

namespace Mustache.Yaml

/-- A bracket that is open. -/
inductive Bracket
  | square
  | curly
deriving DecidableEq, Repr

/-- A place that may turn out to be a key. -/
structure Candidate where
  /-- The number of open brackets. -/
  level : Nat
  /-- The number of tokens before it. -/
  number : Nat
  /-- Whether nothing but a key may stand here. -/
  required : Bool
  index : Nat
  line : Nat
  column : Nat
deriving DecidableEq, Repr

/-- The layout of a document up to a place. -/
structure Layout where
  reader : Reader
  /-- The indentation of the innermost open block; -1 outside of all blocks. -/
  indent : Int := -1
  /-- The indentations of the blocks around it, innermost first. -/
  outer : List Int := []
  /-- The open brackets, innermost first. -/
  brackets : List Bracket := []
  /-- Whether a key may start here. -/
  keyAllowed : Bool := true
  candidates : List Candidate := []
  /-- The tokens read, last first. -/
  tokens : List Token := []
  finished : Bool := false

namespace Layout

/-- Whether a bracket is open. -/
def inFlow (s : Layout) : Bool := !s.brackets.isEmpty

/-- Adds a token. -/
def add (s : Layout) (t : Token) : Layout := { s with tokens := t :: s.tokens }

/-- Forgets the places that cannot be keys any more, because their line has ended or is too long. -/
def dropStale (s : Layout) : Except Problem Layout :=
  let stale (c : Candidate) : Bool :=
    c.line != s.reader.line || 1024 < s.reader.index - c.index
  if s.candidates.any fun c => stale c && c.required then .error .unreadable
  else .ok { s with candidates := s.candidates.filter fun c => !stale c }

/-- Forgets the place between the present brackets that could have been a key. -/
def dropCandidate (s : Layout) : Except Problem Layout :=
  let level := s.brackets.length
  if s.candidates.any fun c => c.level == level && c.required then .error .unreadable
  else .ok { s with candidates := s.candidates.filter fun c => c.level != level }

/-- Notes that what starts here may turn out to be a key. -/
def noteCandidate (s : Layout) : Except Problem Layout :=
  if !s.keyAllowed then .ok s
  else do
    let s ← s.dropCandidate
    let r := s.reader
    let required := !s.inFlow && s.indent == (r.column : Int)
    let c : Candidate := ⟨s.brackets.length, s.tokens.length, required, r.index, r.line, r.column⟩
    return { s with candidates := c :: s.candidates }

/-- Closes the blocks that are indented further than a column; brackets keep them open. -/
def closeBlocks (column : Int) (s : Layout) : Layout :=
  if s.inFlow then s
  else
    let closed := (s.indent :: s.outer).takeWhile (column < ·)
    match (s.indent :: s.outer).drop closed.length with
    | [] => s
    | indent :: outer =>
      { s with indent, outer, tokens := closed.map (fun _ => Token.blockEnd) ++ s.tokens }

/-- The layout with a block open at a column, and whether that block is new. -/
def openBlock (column : Nat) (s : Layout) : Layout × Bool :=
  if s.indent < column then ({ s with indent := column, outer := s.indent :: s.outer }, true)
  else (s, false)

/-- Reads an indicator of a width. -/
def indicator (s : Layout) (width : Nat) (t : Token) : Layout :=
  { s with reader := s.reader.skip width }.add t

/-- Puts tokens in front of the last `count` ones. -/
def insertBefore (s : Layout) (count : Nat) (found : List Token) : Layout :=
  { s with tokens := s.tokens.take count ++ found.reverse ++ s.tokens.drop count }

/-- Reads the end of the text. -/
def finish (s : Layout) : Except Problem Layout := do
  let s ← (s.closeBlocks (-1)).dropCandidate
  return { s with finished := true }

/-- Reads a directive. -/
def directive (s : Layout) : Except Problem Layout := do
  let s ← (s.closeBlocks (-1)).dropCandidate
  let (token, reader) ← directiveToken s.reader
  return { s with reader, keyAllowed := false }.add token

/-- Reads a mark between documents. -/
def separator (s : Layout) (t : Token) : Except Problem Layout := do
  let s ← (s.closeBlocks (-1)).dropCandidate
  return { s with keyAllowed := false }.indicator 3 t

/-- Reads an opening bracket. -/
def openBracket (s : Layout) (b : Bracket) (t : Token) : Except Problem Layout := do
  let s ← s.noteCandidate
  return { s with brackets := b :: s.brackets, keyAllowed := true }.indicator 1 t

/-- Reads a closing bracket. -/
def closeBracket (s : Layout) (t : Token) : Except Problem Layout := do
  let s ← s.dropCandidate
  return { s with brackets := s.brackets.tail, keyAllowed := false }.indicator 1 t

/-- Reads a comma. -/
def comma (s : Layout) : Except Problem Layout := do
  let s ← s.dropCandidate
  return { s with keyAllowed := true }.indicator 1 .flowEntry

/-- Opens a block for an item or a key, which must be allowed here. -/
def startItem (s : Layout) (opening : Token) : Except Problem Layout :=
  if s.inFlow then .ok s
  else if !s.keyAllowed then .error .unreadable
  else
    let (s, isNew) := s.openBlock s.reader.column
    .ok (if isNew then s.add opening else s)

/-- Reads the dash of an item. -/
def dash (s : Layout) : Except Problem Layout := do
  let s ← s.startItem .blockSequence
  let s ← s.dropCandidate
  return { s with keyAllowed := true }.indicator 1 .blockEntry

/-- Reads the question mark of a key. -/
def question (s : Layout) : Except Problem Layout := do
  let s ← s.startItem .blockMapping
  let s ← s.dropCandidate
  return { s with keyAllowed := !s.inFlow }.indicator 1 .key

/-- Reads the colon of a value, and makes the place noted before it a key. -/
def colon (s : Layout) : Except Problem Layout :=
  let level := s.brackets.length
  match s.candidates.find? fun c => c.level == level with
  | some c =>
    let s := { s with candidates := s.candidates.filter fun d => d.level != level }
    let (s, isNew) := if s.inFlow then (s, false) else s.openBlock c.column
    let found := if isNew then [.blockMapping, .key] else [.key]
    let s := s.insertBefore (s.tokens.length - c.number) found
    .ok ({ s with keyAllowed := false }.indicator 1 .value)
  | none => do
    let s ← s.startItem .blockMapping
    let s ← s.dropCandidate
    return { s with keyAllowed := !s.inFlow }.indicator 1 .value

/-- Reads an anchor or an alias. -/
def anchorWord (s : Layout) (make : String → Token) : Except Problem Layout := do
  let s ← s.noteCandidate
  let word ← anchorName s.reader
  return { s with reader := word.reader, keyAllowed := false }.add (make (String.ofList word.text))

/-- Reads a tag. -/
def tag (s : Layout) : Except Problem Layout := do
  let s ← s.noteCandidate
  let (token, reader) ← tagToken s.reader
  return { s with reader, keyAllowed := false }.add token

/-- Reads a block scalar. -/
def block (s : Layout) (foldLines : Bool) : Except Problem Layout := do
  let s ← s.dropCandidate
  let found ← blockScalar foldLines (s.indent + 1).toNat s.reader
  return { s with reader := found.reader, keyAllowed := true }.add
    (.scalar (String.ofList found.text) false)

/-- Reads a quoted scalar. -/
def quoted (s : Layout) : Except Problem Layout := do
  let s ← s.noteCandidate
  let found ← quotedScalar s.reader
  return { s with reader := found.reader, keyAllowed := false }.add
    (.scalar (String.ofList found.text) false)

/-- Reads a plain scalar; a key may start behind it on a new line. -/
def plain (s : Layout) : Except Problem Layout := do
  let s ← s.noteCandidate
  let (found, crossed) := plainScalar s.inFlow (s.indent + 1).toNat s.reader
  return { s with reader := found.reader, keyAllowed := crossed }.add
    (.scalar (String.ofList found.text) true)

/-- Whether a colon here separates a key from its value. Between square brackets, and behind another
colon of the same line between curly ones, it does so only before a gap. -/
def isColon (s : Layout) (afterColon : Bool) : Bool :=
  let gap := isGap (s.reader.peekAt 1)
  match s.brackets with
  | [] | .square :: _ => gap
  | .curly :: _ => gap || !afterColon

/-- Whether a plain scalar starts here. -/
def startsPlain (s : Layout) : Bool :=
  let c := s.reader.peek
  let next := s.reader.peekAt 1
  if c == '-' then !isGap next
  else if c == ':' then !isGap next || (s.inFlow && !isSpace next)
  else if c == '?' then !s.inFlow && !isGap next
  else !(endsWord c || isSpace c || ",[]\x7b\x7d#&*!|>'\"%@`".toList.contains c)

/-- Skips what stands between tokens. -/
def skipBlanks (s : Layout) : Layout :=
  let r := s.reader
  let r := if r.index = 0 && r.peek.toNat == 0xfeff then r.next else r
  let (width, crossed) := leadingBlanks s.inFlow false r.rest
  { s with reader := r.skip width, keyAllowed := s.keyAllowed || (crossed && !s.inFlow) }

/-- Reads the token that starts here. -/
def readToken (s : Layout) (afterColon : Bool) : Except Problem Layout :=
  let r := s.reader
  let c := r.peek
  let next := r.peekAt 1
  if r.rest.isEmpty then s.finish
  else if c == '%' && r.column == 0 then s.directive
  else if r.column == 0 && startsMark '-' r.rest then s.separator .documentStart
  else if r.column == 0 && startsMark '.' r.rest then s.separator .documentEnd
  else if c == '[' then s.openBracket .square .flowSequence
  else if c == '\x7b' then s.openBracket .curly .flowMapping
  else if c == ']' then s.closeBracket .flowSequenceEnd
  else if c == '\x7d' then s.closeBracket .flowMappingEnd
  else if c == ',' then s.comma
  else if c == '-' && isGap next then s.dash
  else if c == '?' && (s.inFlow || isGap next) then s.question
  else if c == ':' && s.isColon afterColon then s.colon
  else if c == '*' then s.anchorWord .reference
  else if c == '&' then s.anchorWord .anchor
  else if c == '!' then s.tag
  else if c == '|' && !s.inFlow then s.block false
  else if c == '>' && !s.inFlow then s.block true
  else if c == '\'' || c == '"' then s.quoted
  else if s.startsPlain then s.plain
  else .error .unreadable

/-- Reads the next token and what stands before it. -/
def step (s : Layout) : Except Problem Layout := do
  let s ← s.dropStale
  let afterColon := !s.candidates.isEmpty && s.tokens.head? == some .value
  let s ← s.skipBlanks.dropStale
  (s.closeBlocks s.reader.column).readToken afterColon

/-- Reads tokens to the end of the text. -/
def run : Nat → Layout → Except Problem Layout
  | 0, _ => .error .unreadable
  | fuel + 1, s =>
    match s.step with
    | .error problem => .error problem
    | .ok s => if s.finished then .ok s else run fuel s

end Layout

/-- The tokens of a document's text. -/
def Token.scan (s : List Char) : Except Problem (List Token) :=
  if !s.all isReadable then .error .unreadable
  else (Layout.run (s.length + 1) { reader := { rest := s } }).map fun layout =>
    layout.tokens.reverse

end Mustache.Yaml
