import Mustache.Text.Digits

/-!
# Bytes that are no text

The place and the reason of the first fault in bytes that an encoding cannot read, and its wording.
-/

namespace Mustache

/-- Why bytes cannot be decoded: the bytes from `start` up to `stop` are at fault, and `first` is
the first of them. -/
structure DecodeFault where
  encoding : String
  first : UInt8
  start : Nat
  stop : Nat
  reason : String
deriving DecidableEq, Repr

/-- The wording of a fault. -/
def DecodeFault.message (f : DecodeFault) : String :=
  let place :=
    if f.stop = f.start + 1 then
      "byte 0x" ++ String.ofList (Text.hexDigits 2 f.first.toNat) ++ s!" in position {f.start}"
    else s!"bytes in position {f.start}-{f.stop - 1}"
  "'" ++ f.encoding ++ "' codec can't decode " ++ place ++ ": " ++ f.reason

/-- What decoding gives. -/
abbrev Decoded := Except DecodeFault (List Char)

end Mustache
