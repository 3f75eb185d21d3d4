/-!
# Bytes as letters

Groups of four characters stand for three bytes. Characters outside the alphabet are passed over,
and reading ends where padding completes a group.
-/

namespace Mustache.Text.Base64

/-- The six bits that a character stands for. -/
def sextet? (c : Char) : Option Nat :=
  let n := c.toNat
  if 65 ≤ n && n ≤ 90 then some (n - 65)
  else if 97 ≤ n && n ≤ 122 then some (n - 71)
  else if 48 ≤ n && n ≤ 57 then some (n + 4)
  else if c == '+' then some 62
  else if c == '/' then some 63
  else none

/-- Reads bytes; `place` is the number of characters of the group that have been read, `carry` holds
the bits of them that belong to the next byte, and `padding` counts the padding so far. -/
def read (place carry padding : Nat) : List Char → Option (List UInt8)
  | [] => if place = 0 then some [] else none
  | c :: s =>
    if c == '=' then
      if place < 2 then read place carry padding s
      else if 4 ≤ place + padding + 1 then some []
      else read place carry (padding + 1) s
    else
      match sextet? c with
      | none => read place carry padding s
      | some n =>
        match place with
        | 0 => read 1 n 0 s
        | 1 => (read 2 (n % 16) 0 s).map (UInt8.ofNat (carry * 4 + n / 16) :: ·)
        | 2 => (read 3 (n % 4) 0 s).map (UInt8.ofNat (carry * 16 + n / 4) :: ·)
        | _ => (read 0 0 0 s).map (UInt8.ofNat (carry * 64 + n) :: ·)

/-- The bytes that a text stands for; none if its last group is not complete. -/
def decode? (s : List Char) : Option (List UInt8) := read 0 0 0 s

example : decode? "aGk=".toList = some [104, 105] ∧ decode? "aGk".toList = none := by decide

end Mustache.Text.Base64
