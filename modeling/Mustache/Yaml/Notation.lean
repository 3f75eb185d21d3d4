import Mustache.Text.Base64
import Mustache.Text.Blank
import Mustache.Value.Basic
import Mustache.Yaml.Problem
import Mustache.Yaml.Tag

/-!
# Values of scalars

What the text of a scalar stands for, by its tag. An explicit tag may ask for a text that does not
follow the notation of the type.
-/

namespace Mustache.Yaml

/-- A scalar without a value. -/
def impossible {α : Type} : Except Problem α := .error (.scalar .impossibleValue)

/-- The most digits that a decimal number may have. -/
def longestNumeral : Nat := 4300

/-- Reads a sign and digits of a base, blanks around them left out. -/
def signedDigits (base : Nat) (s : List Char) : Except Problem Int :=
  let s := Text.trim s
  let digits := Tag.unsigned s
  let isDigit (c : Char) : Bool := (Text.hexValue? c).any (· < base)
  if digits.isEmpty || !digits.all isDigit then impossible
  else if base = 10 && longestNumeral < digits.length then impossible
  else
    let n : Int := (Text.ofDigits base digits : Nat)
    .ok (if s.head? == some '-' then -n else n)

/-- Reads a whole number; underscores between its digits say nothing. -/
def wholeNumber (s : List Char) : Except Problem Int :=
  let s := s.filter (· ≠ '_')
  match s with
  | [] => .error (.scalar .empty)
  | first :: _ =>
    let n := match Tag.unsigned s with
      | '0' :: 'b' :: digits => signedDigits 2 digits
      | '0' :: 'o' :: digits => signedDigits 8 digits
      | '0' :: 'x' :: digits => signedDigits 16 digits
      | digits => signedDigits 10 digits
    n.map fun n => if first == '-' then -n else n

/-- Reads a number with a point or an exponent. -/
def floatingNumber (s : List Char) : Except Problem Binary64 :=
  let s := (s.filter (· ≠ '_')).map Char.toLower
  match s with
  | [] => .error (.scalar .empty)
  | first :: _ =>
    let body := Tag.unsigned s
    let x? :=
      if body = ".inf".toList then some (Binary64.infinity false)
      else if body = ".nan".toList then some Binary64.nan
      else Binary64.ofChars? (Text.trim body)
    match x? with
    | none => impossible
    | some x => .ok (if first == '-' then x.negated else x)

/-- The words for the two truth values, in lower case. -/
def truthWords : List (String × Bool) :=
  [("yes", true), ("no", false), ("y", true), ("n", false), ("true", true), ("false", false),
   ("on", true), ("off", false)]

/-- Reads a truth value. -/
def truth (s : List Char) : Except Problem Bool :=
  match truthWords.lookup (String.ofList (s.map Char.toLower)) with
  | none => .error (.scalar .unknownWord)
  | some b => .ok b

/-- The microseconds that digits behind the point of a second stand for, rounded by the seventh. -/
def microseconds (digits : List Char) : Nat :=
  let six := (digits ++ List.replicate 6 '0').take 6
  let next := ((digits[6]?).bind Text.hexValue?).getD 0
  Text.ofDigits 10 six + if 4 < next then 1 else 0

/-- The offset from universal time that a notation gives. -/
def stampOffset : Option Char × List Char × List Char × List Char → Offset
  | (none, _, _, written) => ⟨0, String.ofList written⟩
  | (some sign, hour, minute, written) =>
    let n : Int := (Text.ofDigits 10 hour * 60 + Text.ofDigits 10 minute : Nat)
    ⟨if sign == '-' then -n else n, String.ofList written⟩

/-- Reads a day or a moment; a fraction that is rounded up to a second starts the next one. -/
def timestamp (s : List Char) : Except Problem Value :=
  match Tag.stamp? s with
  | none => .error .unreadable
  | some stamp =>
    let number := Text.ofDigits 10
    let date : Date := ⟨number stamp.year, number stamp.month, number stamp.day⟩
    match stamp.clock with
    | none => if date.isValid then .ok (.date date) else impossible
    | some (hour, minute, second, fraction) =>
      let micro := microseconds fraction
      let moment : Moment :=
        ⟨date, number hour, number minute, number second, micro % 1000000,
          stamp.offset.map stampOffset⟩
      if !moment.isValid then impossible
      else if micro < 1000000 then .ok (.moment moment)
      else if moment.nextSecond.isValid then .ok (.moment moment.nextSecond)
      else .error (.scalar .outOfRange)

/-- Reads bytes. -/
def binary (s : List Char) : Except Problem (List UInt8) :=
  if s.any fun c => 127 < c.toNat then .error .unreadable
  else
    match Text.Base64.decode? s with
    | none => .error .unreadable
    | some bytes => .ok bytes

/-- The value of a scalar. -/
def scalarValue (tag : Tag) (s : List Char) : Except Problem Value :=
  match tag with
  | .null => .ok .null
  | .bool => (truth s).map .bool
  | .int => (wholeNumber s).map .int
  | .float => (floatingNumber s).map .float
  | .binary => (binary s).map .bytes
  | .timestamp => timestamp s
  | .text => .ok (.text (String.ofList s))
  | _ => .error .unreadable

end Mustache.Yaml
