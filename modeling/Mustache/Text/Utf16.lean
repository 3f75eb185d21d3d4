import Mustache.Text.DecodeFault

/-!
# UTF-16 and UTF-32

The text of bytes that come in units of two or of four, in either order. A character beyond the
basic plane takes two units of two bytes, a high surrogate and a low one; no unit of four bytes is a
surrogate. A mark at the front may tell the order of the bytes.
-/

namespace Mustache

/-- Which byte of a unit comes first. -/
inductive ByteOrder
  | little
  | big
deriving DecidableEq, Repr

namespace ByteOrder

/-- The number that two bytes make. -/
def pair (o : ByteOrder) (a b : UInt8) : Nat :=
  match o with
  | .little => b.toNat * 0x100 + a.toNat
  | .big => a.toNat * 0x100 + b.toNat

/-- The number that four bytes make. -/
def quad (o : ByteOrder) (a b c d : UInt8) : Nat :=
  match o with
  | .little => o.pair c d * 0x10000 + o.pair a b
  | .big => o.pair a b * 0x10000 + o.pair c d

/-- The end of the name of an encoding in an order of bytes. -/
def mark : ByteOrder → String
  | .little => "-le"
  | .big => "-be"

end ByteOrder

namespace Text

/-- Whether a code unit is the first of a pair. -/
def isHighSurrogate (u : Nat) : Bool := 0xd800 ≤ u && u ≤ 0xdbff

/-- Whether a code unit is the second of a pair. -/
def isLowSurrogate (u : Nat) : Bool := 0xdc00 ≤ u && u ≤ 0xdfff

/-- The code point of a pair of code units. -/
def pairedSurrogates (high low : Nat) : Nat :=
  0x10000 + (high - 0xd800) * 0x400 + (low - 0xdc00)

/-- Decodes UTF-16; the first bytes stand at a position. -/
def decodeUtf16 (order : ByteOrder) (position : Nat) : List UInt8 → Decoded
  | [] => .ok []
  | [a] => .error ⟨"utf-16" ++ order.mark, a, position, position + 1, "truncated data"⟩
  | a :: b :: rest =>
    let unit := order.pair a b
    let fault (width : Nat) (reason : String) : Decoded :=
      .error ⟨"utf-16" ++ order.mark, a, position, position + width, reason⟩
    if isLowSurrogate unit then fault 2 "illegal encoding"
    else if isHighSurrogate unit then
      match rest with
      | c :: d :: rest =>
        let low := order.pair c d
        if isLowSurrogate low then
          (decodeUtf16 order (position + 4) rest).map (Char.ofNat (pairedSurrogates unit low) :: ·)
        else fault 2 "illegal UTF-16 surrogate"
      | rest => fault (2 + rest.length) "unexpected end of data"
    else (decodeUtf16 order (position + 2) rest).map (Char.ofNat unit :: ·)

/-- Decodes UTF-32; the first bytes stand at a position. -/
def decodeUtf32 (order : ByteOrder) (position : Nat) : List UInt8 → Decoded
  | [] => .ok []
  | a :: b :: c :: d :: rest =>
    let unit := order.quad a b c d
    let fault (reason : String) : Decoded :=
      .error ⟨"utf-32" ++ order.mark, a, position, position + 4, reason⟩
    if isHighSurrogate unit || isLowSurrogate unit then
      fault "code point in surrogate code point range(0xd800, 0xe000)"
    else if 0x10ffff < unit then fault "code point not in range(0x110000)"
    else (decodeUtf32 order (position + 4) rest).map (Char.ofNat unit :: ·)
  | a :: rest =>
    .error ⟨"utf-32" ++ order.mark, a, position, position + 1 + rest.length, "truncated data"⟩

/-- The order that a mark of two bytes tells. -/
def orderOfMark16? : List UInt8 → Option ByteOrder
  | 0xff :: 0xfe :: _ => some .little
  | 0xfe :: 0xff :: _ => some .big
  | _ => none

/-- The order that a mark of four bytes tells. -/
def orderOfMark32? : List UInt8 → Option ByteOrder
  | 0xff :: 0xfe :: 0 :: 0 :: _ => some .little
  | 0 :: 0 :: 0xfe :: 0xff :: _ => some .big
  | _ => none

end Text

end Mustache
