import Mustache.Number.Binary64

/-!
# The shortest decimal

The decimal with the fewest digits that reads back as a given number; of several such the nearest,
of two equally near the one with the even last digit. For each count of digits only the two
neighbours of the number on that decimal grid can be hits, so both are tried, exactly.
-/

namespace Mustache

/-- A decimal `digits * 10 ^ exponent`. -/
structure Decimal where
  digits : Nat
  exponent : Int
deriving DecidableEq, Repr

namespace Binary64

/-- Twice the number of quarter units in the gap below a number: the gap is half as wide at a power
of two. -/
private def gapBelow (x : Binary64) : Nat :=
  if x.mantissa = exponentWeight && x.exponent ≠ -1074 then 1 else 2

/-- The factors that bring quarter units and the grid `10 ^ p` to one scale: `d * 10 ^ p` compares
to `n` quarter units as `d * fst` to `n * snd`. -/
private def scales (x : Binary64) (p : Int) : Nat × Nat :=
  let q := x.exponent - 2
  (Nat.pow 10 p.toNat * Nat.pow 2 (-q).toNat, Nat.pow 10 (-p).toNat * Nat.pow 2 q.toNat)

/-- Whether a number is at least `10 ^ p`. -/
private def atLeastPower (x : Binary64) (p : Int) : Bool :=
  let (a, b) := scales x p
  a ≤ 4 * x.mantissa * b

/-- The position of the leading decimal digit of a finite number other than zero. -/
def leadingPower (x : Binary64) : Int :=
  let guess := (((Nat.log2 x.mantissa : Int) + x.exponent) * 30103).fdiv 100000
  if x.atLeastPower (guess + 1) then guess + 1
  else if x.atLeastPower guess then guess
  else guess - 1

/-- Whether `d * 10 ^ p` is rounded to the number. -/
def readsBack (x : Binary64) (d : Nat) (p : Int) : Bool :=
  let (a, b) := scales x p
  let low := (4 * x.mantissa - x.gapBelow) * b
  let high := (4 * x.mantissa + 2) * b
  if x.mantissa % 2 = 0 then low ≤ d * a && d * a ≤ high else low < d * a && d * a < high

/-- The neighbour of the number on the grid `10 ^ p` that reads back, the nearer one if both do. -/
def onGrid? (x : Binary64) (p : Int) : Option Nat :=
  let (a, b) := scales x p
  let value := 4 * x.mantissa * b
  let below := value / a
  let above := below + 1
  let toBelow := value - below * a
  let toAbove := above * a - value
  match x.readsBack below p, x.readsBack above p with
  | true, true =>
    some (if toBelow < toAbove || (toBelow = toAbove && below % 2 = 0) then below else above)
  | true, false => some below
  | false, true => some above
  | false, false => none

/-- The first grid with a hit, from a power on downwards. -/
private def firstGrid (x : Binary64) : Nat → Int → Decimal
  | 0, p => ⟨(x.onGrid? p).getD 0, p⟩
  | steps + 1, p =>
    match x.onGrid? p with
    | some d => ⟨d, p⟩
    | none => firstGrid x steps (p - 1)

/-- The shortest decimal of a finite number, its sign apart. -/
def shortest (x : Binary64) : Decimal :=
  if x.magnitude = 0 then ⟨0, 0⟩ else x.firstGrid 16 x.leadingPower

end Binary64

/-- How a decimal is laid out. -/
structure DecimalLayout where
  /-- The leading digit's position from which on the exponent is written. -/
  firstLarge : Int
  /-- The leading digit's position below which the exponent is written. -/
  firstSmall : Int
  /-- The least number of digits of a written exponent. -/
  exponentWidth : Nat

namespace DecimalLayout

/-- Trailing zeros of a numeral moved into the exponent. -/
private def stripZeros (digits : List Char) : List Char :=
  match (digits.reverse.dropWhile (· == '0')).reverse with
  | [] => ['0']
  | kept => kept

/-- A decimal as text, always with a fraction or an exponent. -/
def render (layout : DecimalLayout) (d : Decimal) : String :=
  let all := Nat.toDigits 10 d.digits
  let digits := stripZeros all
  let lead : Int := if d.digits = 0 then 0 else d.exponent + all.length - 1
  if lead < layout.firstSmall || layout.firstLarge ≤ lead then
    let fraction := if digits.length = 1 then [] else '.' :: digits.drop 1
    let sign := if lead < 0 then '-' else '+'
    String.ofList (digits.take 1 ++ fraction ++ ['e', sign])
      ++ Text.padded layout.exponentWidth lead.natAbs
  else if lead < 0 then
    String.ofList (['0', '.'] ++ List.replicate (-lead - 1).toNat '0' ++ digits)
  else
    let whole := lead.toNat + 1
    let padded := digits ++ List.replicate (whole + 1 - digits.length) '0'
    String.ofList (padded.take whole ++ '.' :: padded.drop whole)

end DecimalLayout

namespace Binary64

/-- Numbers are written positionally from four decimal places up to sixteen whole digits, and an
exponent has at least two digits. -/
def layout : DecimalLayout := ⟨16, -4, 2⟩

/-- A number as text. -/
def text (x : Binary64) : String :=
  if x.isNaN then "nan"
  else
    let sign := if x.negative then "-" else ""
    sign ++ if x.isInfinite then "inf" else layout.render x.shortest

end Binary64

example : (Binary64.ofChars? "5e-324".toList).map Binary64.text = some "5e-324" := by
  decide +kernel

example : (Binary64.ofChars? "0.30000000000000004".toList).map Binary64.text
    = some "0.30000000000000004" := by decide +kernel

end Mustache
