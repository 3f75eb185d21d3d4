import Mustache.Text.Utf8
import Mustache.Value.Basic

/-!
# Members of buffers

A buffer of bytes is no scalar to templates: it answers for the methods of texts of bytes. Those
that need nothing give their result; those that need an argument fail, because templates give none.
Some give new buffers, and some change the buffer itself. Letters, digits and blanks are those of
ASCII.
-/

namespace Mustache.Value.Buffer

/-! ## Classes of bytes -/

/-- Whether a byte is a capital letter. -/
def isUpper (b : UInt8) : Bool := 65 ≤ b.toNat && b.toNat ≤ 90

/-- Whether a byte is a small letter. -/
def isLower (b : UInt8) : Bool := 97 ≤ b.toNat && b.toNat ≤ 122

/-- Whether a byte is a letter. -/
def isLetter (b : UInt8) : Bool := isUpper b || isLower b

/-- Whether a byte is a digit. -/
def isDigit (b : UInt8) : Bool := 48 ≤ b.toNat && b.toNat ≤ 57

/-- Whether a byte is a blank. -/
def isBlank (b : UInt8) : Bool := b.toNat == 32 || (9 ≤ b.toNat && b.toNat ≤ 13)

/-- Whether a byte ends a line. -/
def endsLine (b : UInt8) : Bool := b.toNat == 10 || b.toNat == 13

/-- The capital of a small letter. -/
def toUpper (b : UInt8) : UInt8 := if isLower b then b - 32 else b

/-- The small letter of a capital. -/
def toLower (b : UInt8) : UInt8 := if isUpper b then b + 32 else b

/-- A letter in the other case. -/
def swapCase (b : UInt8) : UInt8 := if isLower b then toUpper b else toLower b

/-! ## Rewriting -/

/-- The first byte as a capital, the others small. -/
def capitalized : List UInt8 → List UInt8
  | [] => []
  | b :: bs => toUpper b :: bs.map toLower

/-- Every first letter of a word as a capital, the others small; `inWord` tells whether a letter
stands before the bytes. -/
def titled (inWord : Bool) : List UInt8 → List UInt8
  | [] => []
  | b :: bs => (if inWord then toLower b else toUpper b) :: titled (isLetter b) bs

/-- Whether capitals stand at the front of words and nowhere else. -/
def isTitled (inWord : Bool) : List UInt8 → Bool
  | [] => true
  | b :: bs =>
    (if isUpper b then !inWord else if isLower b then inWord else true) && isTitled (isLetter b) bs

/-- Blanks in place of tabs, up to the next multiple of eight columns. -/
def withoutTabs (column : Nat) : List UInt8 → List UInt8
  | [] => []
  | b :: bs =>
    if b.toNat == 9 then
      let width := 8 - column % 8
      List.replicate width 32 ++ withoutTabs (column + width) bs
    else b :: withoutTabs (if endsLine b then 0 else column + 1) bs

/-- Bytes without the blanks at their end. -/
def trimEnd (bs : List UInt8) : List UInt8 := (bs.reverse.dropWhile isBlank).reverse

/-! ## Splitting -/

/-- The longest pieces without blanks. -/
def words (bs : List UInt8) : List (List UInt8) :=
  (bs.splitOnP isBlank).filter (· ≠ [])

/-- A single byte at the end of every line. -/
def unifyEnds : List UInt8 → List UInt8
  | [] => []
  | 13 :: 10 :: bs => 10 :: unifyEnds bs
  | b :: bs => b :: unifyEnds bs

/-- The lines, without what ends them. -/
def lines (bs : List UInt8) : List (List UInt8) :=
  let parts := (unifyEnds bs).splitOnP endsLine
  if parts.getLast? = some [] then parts.dropLast else parts

/-! ## Members -/

/-- Methods that cannot do without an argument. -/
def needy : List String :=
  ["append", "center", "count", "endswith", "extend", "find", "fromhex", "index", "insert", "join",
   "ljust", "maketrans", "partition", "remove", "removeprefix", "removesuffix", "replace", "rfind",
   "rindex", "rjust", "rpartition", "startswith", "translate", "zfill"]

/-- The text of the bytes, if they are UTF-8. -/
def decoded (bs : List UInt8) : Member :=
  match Text.decodeUtf8 0 0 bs with
  | .ok s => .value (.text (String.ofList s))
  | .error _ => .failingMethod ⟨.undecodable, ""⟩

/-- The last byte. -/
def last (bs : List UInt8) : Member :=
  match bs.getLast? with
  | some b => .value (.int b.toNat)
  | none => .failingMethod ⟨.nothingLeft, ""⟩

/-- The two digits of every byte. -/
def hexText (bs : List UInt8) : String :=
  String.ofList (bs.flatMap fun b => Text.hexDigits 2 b.toNat)

/-- The results of the methods that need no argument. New buffers have the origin in common. -/
def results (origin : Nat) (bs : List UInt8) : List (String × Member) :=
  let buffer (name : String) (bs : List UInt8) := (name, Member.value (.buffer (.made origin 0) bs))
  let test (name : String) (holds : Bool) := (name, Member.value (.bool holds))
  let pieces (name : String) (parts : List (List UInt8)) :=
    (name, Member.value (.list (parts.mapIdx fun i part => .buffer (.made origin i) part)))
  [buffer "capitalize" (capitalized bs), buffer "copy" bs, buffer "expandtabs" (withoutTabs 0 bs),
   buffer "lower" (bs.map toLower), buffer "lstrip" (bs.dropWhile isBlank),
   buffer "rstrip" (trimEnd bs), buffer "strip" (trimEnd (bs.dropWhile isBlank)),
   buffer "swapcase" (bs.map swapCase), buffer "title" (titled false bs),
   buffer "upper" (bs.map toUpper),
   test "isalnum" (bs ≠ [] && bs.all fun b => isLetter b || isDigit b),
   test "isalpha" (bs ≠ [] && bs.all isLetter), test "isascii" (bs.all (·.toNat < 128)),
   test "isdigit" (bs ≠ [] && bs.all isDigit), test "islower" (bs.any isLower && !bs.any isUpper),
   test "isspace" (bs ≠ [] && bs.all isBlank),
   test "istitle" (bs.any isLetter && isTitled false bs),
   test "isupper" (bs.any isUpper && !bs.any isLower),
   pieces "split" (words bs), pieces "rsplit" (words bs), pieces "splitlines" (lines bs),
   ("hex", .value (.text (hexText bs))), ("decode", decoded bs), ("pop", last bs),
   ("clear", .value .null), ("reverse", .value .null)]

/-- The answer for a name. -/
def member? (origin : Nat) (bs : List UInt8) (name : String) : Option Member :=
  if needy.contains name then some (.failingMethod ⟨.missingArgument, ""⟩)
  else (results origin bs).lookup name

/-- What a buffer holds when a name has been looked up in it. -/
def after (bs : List UInt8) (name : String) : List UInt8 :=
  if name = "pop" then bs.dropLast
  else if name = "clear" then []
  else if name = "reverse" then bs.reverse
  else bs

end Mustache.Value.Buffer
