import Mustache.Text.DecodeFault

/-!
# UTF-8

The bytes of a text, and the text of some bytes: characters of one to four bytes, each in its
shortest form and none a surrogate.
-/

namespace Mustache.Text

/-- What the front of some bytes is in UTF-8. -/
inductive Utf8Front
  /-- A character and the number of bytes it takes. -/
  | char (c : Char) (width : Nat)
  /-- The number of bytes at fault, and the reason. -/
  | fault (width : Nat) (reason : String)

/-- The bytes that may follow a first byte: the range of the second one and the number of them
all. -/
def utf8Shape (b : Nat) : Option (Nat × Nat × Nat) :=
  if 0xc2 ≤ b && b ≤ 0xdf then some (0x80, 0xbf, 1)
  else if b = 0xe0 then some (0xa0, 0xbf, 2)
  else if b = 0xed then some (0x80, 0x9f, 2)
  else if 0xe1 ≤ b && b ≤ 0xef then some (0x80, 0xbf, 2)
  else if b = 0xf0 then some (0x90, 0xbf, 3)
  else if 0xf1 ≤ b && b ≤ 0xf3 then some (0x80, 0xbf, 3)
  else if b = 0xf4 then some (0x80, 0x8f, 3)
  else none

/-- The bits that a first byte gives to its character. -/
def utf8Lead (b : Nat) : Nat :=
  if b < 0xe0 then b % 32 else if b < 0xf0 then b % 16 else b % 8

/-- Reads `count` following bytes, of which the first lies between `low` and `high`; `width` bytes
have been read and hold `value`. -/
def utf8Rest (low high width value : Nat) : Nat → List UInt8 → Utf8Front
  | 0, _ => .char (Char.ofNat value) width
  | _ + 1, [] => .fault width "unexpected end of data"
  | count + 1, b :: bytes =>
    if low ≤ b.toNat && b.toNat ≤ high then
      utf8Rest 0x80 0xbf (width + 1) (value * 64 + b.toNat % 64) count bytes
    else .fault width "invalid continuation byte"

/-- The front of some bytes that start with a byte. -/
def utf8Front (b : UInt8) (rest : List UInt8) : Utf8Front :=
  if b.toNat < 0x80 then .char (Char.ofNat b.toNat) 1
  else
    match utf8Shape b.toNat with
    | none => .fault 1 "invalid start byte"
    | some (low, high, count) => utf8Rest low high 1 (utf8Lead b.toNat) count rest

/-- Decodes UTF-8; the first bytes stand at a position, and `skip` bytes of the last character are
left. -/
def decodeUtf8 (position skip : Nat) : List UInt8 → Decoded
  | [] => .ok []
  | b :: rest =>
    match skip with
    | skip + 1 => decodeUtf8 (position + 1) skip rest
    | 0 =>
      match utf8Front b rest with
      | .char c width => (decodeUtf8 (position + 1) (width - 1) rest).map (c :: ·)
      | .fault width reason => .error ⟨"utf-8", b, position, position + width, reason⟩

/-- The bytes of a text in UTF-8. -/
def utf8Bytes (s : String) : List UInt8 := s.toUTF8.data.toList

end Mustache.Text
