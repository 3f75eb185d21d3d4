import Mustache.Libraries
import Mustache.Text.Blank

/-!
# Include patterns

Patterns in the notation of ignore files, which pick paths relative to a root directory. A pattern
becomes a list of pieces that each take characters off the front of a path; the pieces are tried
with every split at once. Of several patterns the last one that matches decides.
-/

namespace Mustache

namespace Pattern

/-- A part of a pattern. -/
inductive Piece
  | char (c : Char)
  /-- One character of a name. -/
  | any
  /-- Any number of characters of a name. -/
  | many
  /-- At least one character of a name. -/
  | atLeastOne
  /-- One character inside or outside of some ranges. -/
  | oneOf (negated : Bool) (ranges : List (Char × Char))
  /-- Nothing, or directories up to and with a slash. -/
  | leadingFolders
  /-- Nothing, or a slash and what follows it. -/
  | innerFolders
  /-- Nothing, or a slash and whatever follows it. -/
  | optionalBelow
  /-- A slash and whatever follows it. -/
  | below
  /-- Something, a slash and whatever follows it. -/
  | insideFolder
deriving DecidableEq, Repr

/-- Every remainder of a text after taking some of its first characters, all of which pass. -/
def takings (pass : Char → Bool) : List Char → List (List Char)
  | [] => [[]]
  | c :: s => if pass c then (c :: s) :: takings pass s else [c :: s]

/-- The remainder of a text after one character that passes. -/
def taking (pass : Char → Bool) : List Char → List (List Char)
  | [] => []
  | c :: s => if pass c then [s] else []

/-- Whether a character is not the end of a line. -/
def isInLine (c : Char) : Bool := c != '\n'

/-- Whether a character can belong to a name. -/
def isInName (c : Char) : Bool := c != '/'

/-- What can be left of a text after a piece. -/
def Piece.remainders : Piece → List Char → List (List Char)
  | .char c, s => taking (· == c) s
  | .any, s => taking isInName s
  | .many, s => takings isInName s
  | .atLeastOne, s => (taking isInName s).flatMap (takings isInName)
  | .oneOf negated ranges, s =>
    taking (fun c => (ranges.any fun range => range.1 ≤ c && c ≤ range.2) != negated) s
  | .leadingFolders, s => s :: folders s
  | .innerFolders, s =>
    s :: ((taking (· == '/') s).flatMap (taking isInLine)).flatMap (takings isInLine)
  | .optionalBelow, s => s :: (taking (· == '/') s).flatMap (takings isInLine)
  | .below, s => (taking (· == '/') s).flatMap (takings isInLine)
  | .insideFolder, s => (folders s).flatMap (takings isInLine)
where
  /-- The remainders after at least one character and a slash. -/
  folders (s : List Char) : List (List Char) :=
    ((taking isInLine s).flatMap (takings isInLine)).flatMap (taking (· == '/'))

/-- Whether pieces can take a whole text, up to one last line feed. -/
def matchesAll (pieces : List Piece) (s : List Char) : Bool :=
  let left := pieces.foldl (fun texts piece => (texts.flatMap piece.remainders).eraseDups) [s]
  left.any fun rest => rest == [] || rest == ['\n']

/-! ## Reading patterns -/

/-- The ranges between brackets. -/
def ranges : List Char → List (Char × Char)
  | [] => []
  | c :: s =>
    match s with
    | '-' :: d :: rest => (c, d) :: ranges rest
    | s => (c, c) :: ranges s

/-- Whether brackets list what they do not match, and the text after the mark that says so. -/
def takeNegation : List Char → Bool × List Char
  | '!' :: s | '^' :: s => (true, s)
  | s => (false, s)

/-- A closing bracket in the first place, which is part of the content, and the text after it. -/
def takeFirstBracket : List Char → List Char × List Char
  | ']' :: s => ([']'], s)
  | s => ([], s)

/-- The content of brackets whose opening has been read, whether it is negated, and the text after
the closing bracket. -/
def takeBrackets (s : List Char) : Option (Bool × List Char × List Char) :=
  let (negated, s) := takeNegation s
  let (first, s) := takeFirstBracket s
  match s.dropWhile (· != ']') with
  | [] => none
  | _ :: rest => some (negated, first ++ s.takeWhile (· != ']'), rest)

theorem length_takeNegation (s : List Char) : (takeNegation s).2.length ≤ s.length := by
  unfold takeNegation; split <;> simp

theorem length_takeFirstBracket (s : List Char) : (takeFirstBracket s).2.length ≤ s.length := by
  unfold takeFirstBracket; split <;> simp

theorem length_takeBrackets {s content rest : List Char} {negated : Bool}
    (h : takeBrackets s = some (negated, content, rest)) : rest.length < s.length := by
  unfold takeBrackets at h
  dsimp only at h
  split at h
  · simp at h
  · next c rest' hdrop =>
    simp only [Option.some.injEq, Prod.mk.injEq] at h
    obtain ⟨_, _, rfl⟩ := h
    have hlen := (List.dropWhile_sublist
      (l := (takeFirstBracket (takeNegation s).2).2) (· != ']')).length_le
    rw [hdrop, List.length_cons] at hlen
    have := length_takeNegation s
    have := length_takeFirstBracket (takeNegation s).2
    omega

/-- The pieces of a segment between slashes. -/
def segment (s : List Char) : Except PatternProblem (List Piece) :=
  match s with
  | [] => .ok []
  | ['\\'] => .error .incomplete
  | '\\' :: c :: s => (segment s).map (.char c :: ·)
  | '*' :: s => (segment s).map (.many :: ·)
  | '?' :: s => (segment s).map (.any :: ·)
  | '[' :: s =>
    match h : takeBrackets s with
    | none => (segment s).map (.char '[' :: ·)
    | some (negated, content, rest) =>
      have := length_takeBrackets h
      (segment rest).map (.oneOf negated (ranges content) :: ·)
  | c :: s => (segment s).map (.char c :: ·)
termination_by s.length

/-- Splits at every slash. -/
def segments : List Char → List (List Char)
  | [] => [[]]
  | '/' :: s => [] :: segments s
  | c :: s =>
    match segments s with
    | [] => [[c]]
    | first :: others => (c :: first) :: others

/-- The segment that stands for any directories. -/
def anyFolders : List Char := ['*', '*']

/-- Segments without repeated neighbours that stand for any directories. -/
def collapse : List (List Char) → List (List Char)
  | a :: b :: rest =>
    if a = anyFolders ∧ b = anyFolders then collapse (b :: rest) else a :: collapse (b :: rest)
  | short => short

/-- Segments that count from the root: a leading slash has done its work, a single name can stand
anywhere, and a trailing slash stands for everything inside. -/
def rooted (names : List (List Char)) : List (List Char) :=
  let names := match names with
    | [] :: rest => rest
    | [only] => if only = anyFolders then [only] else [anyFolders, only]
    | [folder, []] => if folder = anyFolders then [folder, []] else [anyFolders, folder, []]
    | names => names
  if names.getLast? = some [] && 1 < names.length then names.dropLast ++ [anyFolders] else names

/-- The pieces of segments behind the first one; `slash` tells whether one is due. -/
def laterPieces (slash : Bool) : List (List Char) → Except PatternProblem (List Piece)
  | [] => .ok []
  | [last] =>
    if last = anyFolders then .ok [.below]
    else do
      let here ← if last = ['*'] then .ok [.atLeastOne] else segment last
      return (if slash then [.char '/'] else []) ++ here ++ [.optionalBelow]
  | name :: names =>
    if name = anyFolders then (laterPieces true names).map (.innerFolders :: ·)
    else do
      let here ← if name = ['*'] then .ok [.atLeastOne] else segment name
      let others ← laterPieces true names
      return (if slash then [.char '/'] else []) ++ here ++ others

/-- Whether the ends of all ranges are in order. -/
def hasGoodRanges : Piece → Bool
  | .oneOf _ ranges => ranges.all fun range => range.1 ≤ range.2
  | _ => true

/-- The pieces of a pattern's segments. -/
def allPieces : List (List Char) → Except PatternProblem (List Piece)
  | [] => .error .incomplete
  | first :: names =>
    if first = anyFolders then
      match names with
      | [] => .ok [.atLeastOne, .optionalBelow]
      | names => (laterPieces false names).map (.leadingFolders :: ·)
    else laterPieces false (first :: names)

end Pattern

/-- A pattern: whether it includes or excludes what it matches, and its pieces. -/
structure Pattern where
  includes : Bool
  pieces : List Pattern.Piece
deriving DecidableEq, Repr

namespace Pattern

/-- Reads a pattern. Comments and a lone slash are none. -/
def ofChars (s : List Char) : Except PatternProblem (Option Pattern) :=
  match Text.trim s with
  | [] | '#' :: _ | ['/'] => .ok none
  | s =>
    let (includes, body) := match s with
      | '!' :: body => (false, body)
      | body => (true, body)
    let names := collapse (segments body)
    if names = [anyFolders, []] then .ok (some ⟨includes, [.insideFolder]⟩)
    else
      match allPieces (rooted names) with
      | .error problem => .error problem
      | .ok found =>
        if found.all hasGoodRanges then .ok (some ⟨includes, found⟩) else .error .emptyRange

/-- Reads patterns; the first one that cannot be read is an error. -/
def ofLines : List (List Char) → Except PatternProblem (List Pattern)
  | [] => .ok []
  | line :: lines => do
    let first ← ofChars line
    let others ← ofLines lines
    return first.toList ++ others

/-- A path as patterns see it, without a leading slash or dot. -/
def relative : List Char → List Char
  | '/' :: s => s
  | '.' :: '/' :: s => s
  | s => s

/-- Whether the last of some patterns that matches a path includes it. -/
def pick (patterns : List Pattern) (path : String) : Bool :=
  let s := relative path.toList
  match patterns.reverse.find? fun pattern => matchesAll pattern.pieces s with
  | none => false
  | some pattern => pattern.includes

/-- The reader of patterns that comes with the program. -/
def reader : PatternReader := fun lines => (ofLines (lines.map String.toList)).map pick

end Pattern

end Mustache
