import Mustache.Text.Digits
import Mustache.Text.Printable

/-!
# Quoted text

How text and bytes are written inside the text of a collection: between single quotes, or between
double quotes when the text holds a single quote and no double one; the quote in use, the backslash
and everything unprintable are escaped, and in a buffer of bytes every single quote.
-/

namespace Mustache.Text

/-- The quote that goes around a text. -/
def quoteFor (s : List Char) : Char :=
  if s.contains '\'' && !s.contains '"' then '"' else '\''

/-- One character between quotes. -/
def quotedChar (quote c : Char) : List Char :=
  let n := c.toNat
  if c = quote || c = '\\' then ['\\', c]
  else if c = '\n' then ['\\', 'n']
  else if c = '\r' then ['\\', 'r']
  else if c = '\t' then ['\\', 't']
  else if isPrintable c then [c]
  else if n < 0x100 then '\\' :: 'x' :: hexDigits 2 n
  else if n < 0x10000 then '\\' :: 'u' :: hexDigits 4 n
  else '\\' :: 'U' :: hexDigits 8 n

/-- A text between quotes. -/
def quotedChars (s : List Char) : List Char :=
  let quote := quoteFor s
  quote :: s.flatMap (quotedChar quote) ++ [quote]

/-- `quotedChars` on strings. -/
def quoted (s : String) : String := String.ofList (quotedChars s.toList)

/-- One byte between quotes: ASCII as in text, the others by their two digits. -/
def quotedByte (quote : Char) (b : UInt8) : List Char :=
  let n := b.toNat
  if n < 0x7f then quotedChar quote (Char.ofNat n) else '\\' :: 'x' :: hexDigits 2 n

/-- The quote that goes around bytes. -/
def quoteForBytes (bytes : List UInt8) : Char :=
  quoteFor (bytes.map fun b => Char.ofNat b.toNat)

/-- Bytes between quotes, with the mark that tells them from text. -/
def quotedBytes (bytes : List UInt8) : String :=
  let quote := quoteForBytes bytes
  String.ofList ('b' :: quote :: bytes.flatMap (quotedByte quote) ++ [quote])

/-- The bytes of a buffer between quotes; a single quote is escaped between quotes of either
kind. -/
def quotedBuffer (bytes : List UInt8) : String :=
  let quote := quoteForBytes bytes
  String.ofList ('b' :: quote :: bytes.flatMap (quotedByte '\'') ++ [quote])

example : quoted "it's" = "\"it's\"" ∧ quoted "a'\"b" = "'a\\'\"b'" ∧
    quoted "\u00a0" = "'\\xa0'" := by
  decide

end Mustache.Text
