/-!
# Lines of a template

A template is read line by line. A line ends at a line feed; a carriage return right before it
belongs to the ending, any other one is an ordinary character. Nothing is lost: the lines with
their endings give the text back.
-/

namespace Mustache

/-- What ends a line. The last line of a text may have no ending. -/
inductive LineEnding
  | none
  | lf
  | crlf
deriving DecidableEq, Repr

namespace LineEnding

/-- The characters of an ending. -/
def chars : LineEnding → List Char
  | .none => []
  | .lf => ['\n']
  | .crlf => ['\r', '\n']

end LineEnding

/-- A line: its number from 1, its characters and what ends it. -/
structure Line where
  number : Nat
  body : List Char
  ending : LineEnding
deriving DecidableEq, Repr

namespace Line

/-- Puts a character in front of the first line. -/
def pushFront (c : Char) : List (List Char × LineEnding) → List (List Char × LineEnding)
  | [] => [([c], .none)]
  | (body, ending) :: rest => (c :: body, ending) :: rest

/-- The bodies and endings of the lines of a text. -/
def bodies : List Char → List (List Char × LineEnding)
  | [] => []
  | '\r' :: '\n' :: s => ([], .crlf) :: bodies s
  | '\n' :: s => ([], .lf) :: bodies s
  | c :: s => pushFront c (bodies s)

/-- Numbers lines from `first` on. -/
def numbered (first : Nat) : List (List Char × LineEnding) → List Line
  | [] => []
  | (body, ending) :: rest => ⟨first, body, ending⟩ :: numbered (first + 1) rest

/-- The lines of a text. -/
def split (s : List Char) : List Line := numbered 1 (bodies s)

/-- A body with its ending. -/
def withEnding (line : List Char × LineEnding) : List Char := line.1 ++ line.2.chars

theorem flatMap_withEnding_pushFront (c : Char) (lines : List (List Char × LineEnding)) :
    (pushFront c lines).flatMap withEnding = c :: lines.flatMap withEnding := by
  cases lines <;> simp [pushFront, withEnding, LineEnding.chars]

/-- The lines of a text with their endings give the text back. -/
theorem flatMap_bodies (s : List Char) : (bodies s).flatMap withEnding = s := by
  fun_induction bodies s with
  | case1 => rfl
  | case2 s ih => simp [withEnding, LineEnding.chars, ih]
  | case3 s ih => simp [withEnding, LineEnding.chars, ih]
  | case4 c s _ _ ih => rw [flatMap_withEnding_pushFront, ih]

end Line

end Mustache
