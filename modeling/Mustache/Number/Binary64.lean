import Mustache.Text.Digits

/-!
# Floating-point numbers

A double-precision number is its 64 bits. This module takes the bits apart, rounds an exact ratio
to the nearest number with ties to the even neighbour, and reads decimal notation.
-/

namespace Mustache

/-- A double-precision number, by its bits. -/
structure Binary64 where
  bits : UInt64
deriving DecidableEq, Repr, Inhabited

namespace Binary64

/-- The weight of the sign bit, `2 ^ 63`. -/
def signWeight : Nat := 0x8000000000000000

/-- The weight of the lowest bit of the exponent, `2 ^ 52`. -/
def exponentWeight : Nat := 0x10000000000000

/-- The sign bit. -/
def negative (x : Binary64) : Bool := signWeight ≤ x.bits.toNat

/-- The bits without the sign. -/
def magnitude (x : Binary64) : Nat := x.bits.toNat % signWeight

/-- The magnitude of the infinities. -/
def infiniteMagnitude : Nat := 0x7ff * exponentWeight

/-- Whether the bits stand for no number. -/
def isNaN (x : Binary64) : Bool := infiniteMagnitude < x.magnitude

/-- Whether the number is one of the two infinities. -/
def isInfinite (x : Binary64) : Bool := x.magnitude == infiniteMagnitude

/-- The mantissa of a finite number. -/
def mantissa (x : Binary64) : Nat :=
  if x.magnitude < exponentWeight then x.magnitude
  else x.magnitude % exponentWeight + exponentWeight

/-- The power of two that a finite number's mantissa counts. -/
def exponent (x : Binary64) : Int :=
  if x.magnitude < exponentWeight then -1074
  else (x.magnitude / exponentWeight : Nat) - 1075

/-- The number of a sign and a magnitude. -/
def ofMagnitude (negative : Bool) (magnitude : Nat) : Binary64 :=
  ⟨UInt64.ofNat (magnitude + if negative then signWeight else 0)⟩

/-- Infinity of either sign. -/
def infinity (negative : Bool) : Binary64 := ofMagnitude negative infiniteMagnitude

/-- The value of everything that is no number. -/
def nan : Binary64 := ofMagnitude false (infiniteMagnitude + exponentWeight / 2)

/-- A quotient rounded to the nearest whole number, halves to the even one. -/
def roundHalfEven (num den : Nat) : Nat :=
  let quotient := num / den
  let twice := 2 * (num % den)
  if twice < den then quotient
  else if den < twice then quotient + 1
  else quotient + quotient % 2

/-- How often the unit `2 ^ e` fits into a ratio, as a ratio again. -/
private def inUnits (num den : Nat) (e : Int) : Nat × Nat :=
  (num * Nat.pow 2 (-e).toNat, den * Nat.pow 2 e.toNat)

/-- The number nearest to `num / den`. -/
def ofRatio (negative : Bool) (num den : Nat) : Binary64 :=
  if num = 0 then ofMagnitude negative 0
  else
    let guess := max ((Nat.log2 num : Int) - Nat.log2 den - 52) (-1074)
    let (n, d) := inUnits num den guess
    -- the guess is one too high when the ratio of the leading digits is below one
    let unit := if n / d < exponentWeight then max (guess - 1) (-1074) else guess
    let (n, d) := inUnits num den unit
    let magnitude := (unit + 1074).toNat * exponentWeight + roundHalfEven n d
    ofMagnitude negative (min magnitude infiniteMagnitude)

/-- The number nearest to `digits * 10 ^ exponent`. -/
def ofDecimal (negative : Bool) (digits : Nat) (exponent : Int) : Binary64 :=
  -- beyond these bounds every non-zero decimal is rounded to infinity or to zero
  if digits = 0 then ofMagnitude negative 0
  else if 400 < exponent then infinity negative
  else if exponent + (Nat.log2 digits : Int) < -1500 then ofMagnitude negative 0
  else ofRatio negative (digits * Nat.pow 10 exponent.toNat) (Nat.pow 10 (-exponent).toNat)

/-- The whole number that a finite number is, if it is whole. -/
def toInt? (x : Binary64) : Option Int :=
  if infiniteMagnitude ≤ x.magnitude then none
  else
    let scaled := x.mantissa * Nat.pow 2 x.exponent.toNat
    let unit := Nat.pow 2 (-x.exponent).toNat
    if scaled % unit = 0 then
      some (if x.negative then -(scaled / unit : Nat) else (scaled / unit : Nat))
    else none

/-- The number with the other sign. -/
def negated (x : Binary64) : Binary64 := ofMagnitude (!x.negative) x.magnitude

/-- Equality of numbers: the zeros are equal, and what is no number equals nothing. -/
def same (x y : Binary64) : Bool :=
  !x.isNaN && !y.isNaN && (x == y || (x.magnitude == 0 && y.magnitude == 0))

/-- Digits with single underscores between them, taken off the front of a text. -/
private def takeDigits (s : List Char) : List Char × List Char :=
  (s.takeWhile Text.isDigit, s.dropWhile Text.isDigit)

/-- The exponent part of decimal notation: a signed number after the letter, or nothing. -/
private def exponentPart : List Char → Option Int
  | [] => some 0
  | c :: rest =>
    if c = 'e' || c = 'E' then
      let (negative, digits) := match rest with
        | '-' :: r => (true, r)
        | '+' :: r => (false, r)
        | r => (false, r)
      if digits.isEmpty || !digits.all Text.isDigit then none
      else
        let n : Int := (Text.ofDigits 10 digits : Nat)
        some (if negative then -n else n)
    else none

/-- Reads decimal notation without a sign: digits, a fraction and an exponent, or a name. -/
private def ofUnsigned? (negative : Bool) (s : List Char) : Option Binary64 :=
  let lower := s.map Char.toLower
  if lower = "inf".toList || lower = "infinity".toList then some (infinity negative)
  else if lower = "nan".toList then some nan
  else
    let (whole, rest) := takeDigits s
    let (fraction, rest) := match rest with
      | '.' :: r => takeDigits r
      | r => ([], r)
    if whole.isEmpty && fraction.isEmpty then none
    else do
      let e ← exponentPart rest
      some (ofDecimal negative (Text.ofDigits 10 (whole ++ fraction)) (e - fraction.length))

/-- Reads a number in decimal notation. -/
def ofChars? : List Char → Option Binary64
  | '-' :: s => ofUnsigned? true s
  | '+' :: s => ofUnsigned? false s
  | s => ofUnsigned? false s

end Binary64

end Mustache
