import Mustache.Text.Digits

/-!
# Tags

A tag is the type of a node. Plain scalars without one have the type whose notation their text
follows; all other scalars without one are text.
-/

namespace Mustache.Yaml

/-- The type of a node. -/
inductive Tag
  | null
  | bool
  | int
  | float
  | binary
  | timestamp
  | text
  | sequence
  | mapping
  | set
  | pairs
  | orderedMapping
  /-- A key under which other mappings are put into this one. -/
  | merge
  /-- The key of a mapping's own value. -/
  | value
  | unknown
deriving DecidableEq, Repr, Inhabited

namespace Tag

/-- The beginning of the names of all known tags. -/
def start : String := "tag:yaml.org,2002:"

/-- The words at the end of the names of the known tags. -/
def words : List (String × Tag) :=
  [("null", .null), ("bool", .bool), ("int", .int), ("float", .float), ("binary", .binary),
   ("timestamp", .timestamp), ("str", .text), ("seq", .sequence), ("map", .mapping),
   ("set", .set), ("pairs", .pairs), ("omap", .orderedMapping), ("merge", .merge),
   ("value", .value)]

/-- The tag with a name. -/
def ofName (name : String) : Tag :=
  ((words.find? fun entry => start ++ entry.1 = name).map Prod.snd).getD .unknown

/-- A text without the sign at its front. -/
def unsigned : List Char → List Char
  | '-' :: s => s
  | '+' :: s => s
  | s => s

/-- Whether a text is not empty and consists of digits of a base and underscores. -/
def isNumeral (base : Nat) (s : List Char) : Bool :=
  !s.isEmpty && s.all fun c => c == '_' || (Text.hexValue? c).any (· < base)

/-- Whether a text writes a whole number: decimal, or behind a mark binary, octal or hexadecimal. -/
def isInt (s : List Char) : Bool :=
  -- an underscore may stand first only behind a sign
  s.head? != some '_' &&
    match unsigned s with
    | '0' :: 'b' :: digits => isNumeral 2 digits
    | '0' :: 'o' :: digits => isNumeral 8 digits
    | '0' :: 'x' :: digits => isNumeral 16 digits
    | digits => isNumeral 10 digits

/-- Whether a text is an exponent. -/
def isExponent : List Char → Bool
  | c :: s =>
    let digits := unsigned s
    (c == 'e' || c == 'E') && !digits.isEmpty && digits.all Text.isDigit
  | [] => false

/-- Whether a character is a decimal digit or an underscore. -/
def isDigitOrLine (c : Char) : Bool := Text.isDigit c || c == '_'

/-- Whether a text writes a number with a point or an exponent, infinity, or no number. Without
digits before the point, an exponent needs a sign. -/
def isFloat (s : List Char) : Bool :=
  let body := unsigned s
  let whole := body.takeWhile isDigitOrLine
  let rest := body.drop whole.length
  if [".nan", ".NaN", ".NAN"].contains (String.ofList s)
    || [".inf", ".Inf", ".INF"].contains (String.ofList body) then true
  else
    match whole, rest with
    | [], '.' :: fraction =>
      let digits := fraction.takeWhile isDigitOrLine
      let exponent := fraction.drop digits.length
      let signed := match exponent with
        | _ :: c :: _ => c == '-' || c == '+'
        | _ => false
      !digits.isEmpty && (exponent.isEmpty || (signed && isExponent exponent))
    | first :: _, '.' :: fraction =>
      let exponent := fraction.dropWhile isDigitOrLine
      Text.isDigit first && (exponent.isEmpty || isExponent exponent)
    | first :: _, exponent => Text.isDigit first && isExponent exponent
    | [], _ => false

/-- The digits at the front of a text if there are between `least` and `most` of them, and the text
behind them. -/
def digitRun? (least most : Nat) (s : List Char) : Option (List Char × List Char) :=
  let digits := (s.takeWhile Text.isDigit).take most
  if least ≤ digits.length then some (digits, s.drop digits.length) else none

/-- The text behind a character at its front. -/
def behind? (c : Char) : List Char → Option (List Char)
  | d :: s => if c = d then some s else none
  | [] => none

/-- The parts of a notation of days and times, as digits. -/
structure Stamp where
  year : List Char
  month : List Char
  day : List Char
  /-- Hour, minute, second and fraction. -/
  clock : Option (List Char × List Char × List Char × List Char)
  /-- The sign, hour and minute of an offset and how it is written; no sign for universal time. -/
  offset : Option (Option Char × List Char × List Char × List Char)
deriving DecidableEq, Repr

/-- Reads an offset from universal time, which may be missing, up to the end of the text. -/
def stampOffset? (s : List Char) :
    Option (Option (Option Char × List Char × List Char × List Char)) :=
  match s.dropWhile fun c => c == ' ' || c == '\t' with
  | [] => if s.isEmpty then some none else none
  | ['Z'] => some (some (none, [], [], ['Z']))
  | sign :: rest =>
    if sign == '+' || sign == '-' then do
      let (hour, behind) ← digitRun? 1 2 rest
      match behind with
      | [] => some (some (some sign, hour, [], sign :: rest))
      | ':' :: behind =>
        let (minute, behind) ← digitRun? 2 2 behind
        if behind.isEmpty then some (some (some sign, hour, minute, sign :: rest)) else none
      | _ => none
    else none

/-- Reads a day, or a day and a time. -/
def stamp? (s : List Char) : Option Stamp := do
  let (year, s) ← digitRun? 4 4 s
  let s ← behind? '-' s
  let (month, s) ← digitRun? 1 2 s
  let s ← behind? '-' s
  let (day, s) ← digitRun? 1 2 s
  if s.isEmpty then return ⟨year, month, day, none, none⟩
  let s ← match s with
    | c :: rest =>
      if c == 'T' || c == 't' then some rest
      else if c == ' ' || c == '\t' then some (rest.dropWhile fun c => c == ' ' || c == '\t')
      else none
    | [] => none
  let (hour, s) ← digitRun? 1 2 s
  let s ← behind? ':' s
  let (minute, s) ← digitRun? 2 2 s
  let s ← behind? ':' s
  let (second, s) ← digitRun? 2 2 s
  let (fraction, s) := match s with
    | '.' :: rest => (rest.takeWhile Text.isDigit, rest.dropWhile Text.isDigit)
    | s => ([], s)
  let offset ← stampOffset? s
  return ⟨year, month, day, some (hour, minute, second, fraction), offset⟩

/-- Whether a plain text is a day or a time: a day alone has two digits for month and day. -/
def isTimestamp (s : List Char) : Bool :=
  match stamp? s with
  | none => false
  | some stamp => stamp.clock.isSome || (stamp.month.length == 2 && stamp.day.length == 2)

/-- The type that the text of a plain scalar has. -/
def ofPlain (s : List Char) : Tag :=
  let word := String.ofList s
  if ["true", "True", "TRUE", "false", "False", "FALSE"].contains word then .bool
  else if isFloat s then .float
  else if isInt s then .int
  else if word = "<<" then .merge
  else if ["", "~", "null", "Null", "NULL"].contains word then .null
  else if isTimestamp s then .timestamp
  else if word = "=" then .value
  else .text

end Tag

end Mustache.Yaml
