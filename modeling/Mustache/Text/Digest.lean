import Mustache.Text.Digits

/-!
# SHA-1

The digest that names templates without a name. A message is padded to whole blocks of sixteen
words, and each block is mixed into a state of five words in eighty rounds.
-/

namespace Mustache.Text

namespace Sha1

/-- The five words of a digest in the making. -/
structure State where
  a : UInt32
  b : UInt32
  c : UInt32
  d : UInt32
  e : UInt32

/-- The state before the first block. -/
def initial : State := ⟨0x67452301, 0xefcdab89, 0x98badcfe, 0x10325476, 0xc3d2e1f0⟩

/-- A word rotated to the left. -/
def rotate (n : UInt32) (w : UInt32) : UInt32 := (w <<< n) ||| (w >>> (32 - n))

/-- The eight bytes of a number, the highest first. -/
def lengthBytes (n : Nat) : List UInt8 :=
  (List.range 8).map fun i => UInt8.ofNat (n / Nat.pow 256 (7 - i))

/-- A message with its padding: a one bit, zeros up to a whole number of blocks, and its length. -/
def padded (message : List UInt8) : List UInt8 :=
  let zeros := (119 - message.length % 64) % 64
  message ++ 0x80 :: List.replicate zeros 0 ++ lengthBytes (message.length * 8)

/-- Bytes grouped into words; a last incomplete group is dropped. -/
def words : List UInt8 → List UInt32
  | p :: q :: r :: s :: rest =>
    (p.toUInt32 <<< 24 ||| q.toUInt32 <<< 16 ||| r.toUInt32 <<< 8 ||| s.toUInt32) :: words rest
  | _ => []

/-- The next `rounds` words of a schedule whose last sixteen words, the latest first, are known. -/
def extend : Nat → List UInt32 → List UInt32
  | 0, _ => []
  | rounds + 1, latest =>
    let back (i : Nat) : UInt32 := (latest[i]?).getD 0
    let w := rotate 1 (back 2 ^^^ back 7 ^^^ back 13 ^^^ back 15)
    w :: extend rounds (w :: latest.take 15)

/-- The function and the constant of a round. -/
def mix (round : Nat) (b c d : UInt32) : UInt32 × UInt32 :=
  if round < 20 then ((b &&& c) ||| ((~~~b) &&& d), 0x5a827999)
  else if round < 40 then (b ^^^ c ^^^ d, 0x6ed9eba1)
  else if round < 60 then ((b &&& c) ||| (b &&& d) ||| (c &&& d), 0x8f1bbcdc)
  else (b ^^^ c ^^^ d, 0xca62c1d6)

/-- The rounds over the words of a schedule, from a round on. -/
def run : Nat → State → List UInt32 → State
  | _, s, [] => s
  | round, s, w :: rest =>
    let (f, k) := mix round s.b s.c s.d
    run (round + 1) ⟨rotate 5 s.a + f + s.e + k + w, s.a, rotate 30 s.b, s.c, s.d⟩ rest

/-- Mixes one block of sixteen words into a state. -/
def absorb (s : State) (block : List UInt32) : State :=
  let t := run 0 s (block ++ extend 64 block.reverse)
  ⟨s.a + t.a, s.b + t.b, s.c + t.c, s.d + t.d, s.e + t.e⟩

/-- Mixes all blocks into a state, one after the other; `blocks` is their number. -/
def absorbAll : Nat → State → List UInt32 → State
  | 0, s, _ => s
  | blocks + 1, s, ws => absorbAll blocks (absorb s (ws.take 16)) (ws.drop 16)

/-- The digest of a message as forty hexadecimal digits. -/
def digest (message : List UInt8) : List Char :=
  let ws := words (padded message)
  let s := absorbAll (ws.length / 16) initial ws
  [s.a, s.b, s.c, s.d, s.e].flatMap fun w => hexDigits 8 w.toNat

end Sha1

example : String.ofList (Sha1.digest []) = "da39a3ee5e6b4b0d3255bfef95601890afd80709" := by
  decide +kernel

end Mustache.Text
