import Mustache.Text.Blank
import Mustache.Template.Line
import Mustache.Template.SyntaxError
import Mustache.Template.Token

/-!
# From text to tokens

Each line is cut at its tags from left to right. A tag opens with two braces and closes with the
next two; if it opens with three, a third closing brace belongs to it. A line that holds one tag
and otherwise only blanks prints nothing of itself, its ending included.
-/

namespace Mustache

namespace Line

/-- The text before the first place where `a` and `b` stand next to each other, and the text after
that place. -/
def cut (a b : Char) : List Char → Option (List Char × List Char)
  | [] => none
  | [_] => none
  | c :: d :: s =>
    if c = a ∧ d = b then some ([], s)
    else (cut a b (d :: s)).map fun (before, after) => (c :: before, after)

/-- A cut puts a text apart at the two characters. -/
theorem eq_of_cut {a b : Char} {s before after : List Char} (h : cut a b s = some (before, after)) :
    s = before ++ a :: b :: after := by
  fun_induction cut a b s generalizing before after with
  | case1 => simp at h
  | case2 => simp at h
  | case3 c d s hcd =>
    obtain ⟨rfl, rfl⟩ := hcd
    obtain ⟨rfl, rfl⟩ : [] = before ∧ s = after := by simpa using h
    rfl
  | case4 c d s _ ih =>
    obtain ⟨⟨before', after'⟩, hcut, heq⟩ := Option.map_eq_some_iff.1 h
    obtain ⟨rfl, rfl⟩ := Prod.mk.inj heq
    simp [ih hcut]

/-- The content of a tag whose opening delimiter has been read, and the text after the tag. -/
def takeTag (s : List Char) : Option (List Char × List Char) :=
  match cut '}' '}' s with
  | none => none
  | some (inside, after) =>
    if inside.head? = some '{' then
      match after with
      | '}' :: rest => some (inside ++ ['}'], rest)
      | _ => some (inside, after)
    else some (inside, after)

theorem length_lt_of_takeTag {s content rest : List Char} (h : takeTag s = some (content, rest)) :
    rest.length < s.length := by
  unfold takeTag at h
  split at h
  · simp at h
  · next inside after hcut =>
    have hs := eq_of_cut hcut
    split at h
    · split at h <;> (simp at h; obtain ⟨_, rfl⟩ := h; simp [hs]; omega)
    · simp at h; obtain ⟨_, rfl⟩ := h; simp [hs]; omega

end Line

namespace Token

/-- The kind of a tag that its first character marks. -/
def Kind.ofSigil : Char → Option Kind
  | '!' => some .comment
  | '#' => some .sectionStart
  | '^' => some .invertedStart
  | '/' => some .sectionEnd
  | '>' => some .inclusion
  | '&' => some .unescaped
  | '%' => some .pragma
  | _ => none

/-- The token of a tag that needs a name. -/
def ofNamed (kind : Kind) (name content : List Char) (line column : Nat) :
    Except SyntaxError Token :=
  match Text.trim name with
  | [] => .error (.atLine (.missingName (String.ofList content)) line)
  | trimmed => .ok ⟨kind, String.ofList trimmed, line, column⟩

/-- The token of a tag, by the first character of its content. -/
def ofTag (content : List Char) (line column : Nat) : Except SyntaxError Token :=
  match content with
  | [] => .error (.atLine (.emptyTag column) line)
  | '{' :: inner =>
    if inner.getLast? = some '}' then ofNamed .unescaped inner.dropLast content line column
    else .error (.atLine (.unclosedTriple (String.ofList content)) line)
  | sigil :: rest =>
    match Kind.ofSigil sigil with
    | none => ofNamed .variable content content line column
    | some .comment => .ok ⟨.comment, String.ofList (Text.trim rest), line, column⟩
    | some .pragma => .ok ⟨.pragma, String.ofList (Text.trim rest), line, column⟩
    | some kind => ofNamed kind rest content line column

/-- A text token, or none if there is no text. -/
def ofText (s : List Char) (line column : Nat) : List Token :=
  if s.isEmpty then [] else [⟨.text, String.ofList s, line, column⟩]

end Token

namespace Line

/-- A tag with the text before it. -/
structure Tagged where
  before : List Char
  beforeColumn : Nat
  token : Token
deriving DecidableEq, Repr

/-- A line cut at its tags, with the text after the last one. -/
structure Cuts where
  tags : List Tagged
  rest : List Char
  restColumn : Nat
deriving DecidableEq, Repr

/-- Cuts the rest of a line at its tags, from a column on. -/
def cuts (line column : Nat) (s : List Char) : Except SyntaxError Cuts :=
  match hopen : Line.cut '{' '{' s with
  | none => .ok ⟨[], s, column⟩
  | some (before, opened) =>
    match Line.cut '}' '}' before with
    | some (stray, _) => .error (.atLine (.strayClose (column + stray.length)) line)
    | none =>
      let start := column + before.length
      match htag : takeTag opened with
      | none => .error (.atLine (.unclosedTag start) line)
      | some (content, rest) =>
        match Token.ofTag content line start with
        | .error e => .error e
        | .ok token =>
          have : rest.length < s.length := by
            have := length_lt_of_takeTag htag
            simp [eq_of_cut hopen]; omega
          match cuts line (start + content.length + 4) rest with
          | .error e => .error e
          | .ok c => .ok { c with tags := ⟨before, column, token⟩ :: c.tags }
termination_by s.length

/-- Whether a line holds one tag and otherwise only blanks. -/
def Cuts.isStandalone (c : Cuts) : Bool :=
  match c.tags with
  | [tag] => tag.before.all Text.isBlank && c.rest.all Text.isBlank
  | _ => false

/-- The tokens of a line. -/
def Cuts.tokens (line : Line) (c : Cuts) : List Token :=
  if c.isStandalone then c.tags.map Tagged.token
  else
    c.tags.flatMap (fun tag => Token.ofText tag.before line.number tag.beforeColumn ++ [tag.token])
      ++ Token.ofText (c.rest ++ line.ending.chars) line.number c.restColumn

/-- The tokens of a line. -/
def scan (line : Line) : Except SyntaxError (List Token) :=
  (cuts line.number 1 line.body).map (Cuts.tokens line)

/-- The tokens of lines, up to the first line that is refused. -/
def scanAll : List Line → Except SyntaxError (List Token)
  | [] => .ok []
  | line :: rest =>
    match line.scan with
    | .error e => .error e
    | .ok tokens => (scanAll rest).map (tokens ++ ·)

/-- The number of the last line of a text, 1 for a text without lines. -/
def lastNumber (lines : List Line) : Nat := max 1 lines.length

end Line

namespace Token

/-- The tokens of a template's text, the token of its end last. -/
def scan (s : List Char) : Except SyntaxError (List Token) :=
  let lines := Line.split s
  (Line.scanAll lines).map (· ++ [finishAt (Line.lastNumber lines)])

end Token

end Mustache
