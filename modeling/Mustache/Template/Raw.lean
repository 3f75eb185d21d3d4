import Mustache.Fault
import Mustache.Template.Basic

/-!
# Texts that cannot be encoded

A text as it comes may hold halves of surrogate pairs that stand alone. To the scanner they are
characters like others. But they have no encoding in UTF-8, of which the key of a template without a
name is made.

In a raw text some characters stand for such halves, each for one of its own. A text with other
characters in their place says the same.
-/

namespace Mustache

/-- Whether a character means nothing to the scanner: it is neither a brace, nor a blank, nor the
mark of a kind of tag. The characters that end lines are blanks. -/
def Token.isOrdinary (c : Char) : Bool :=
  c != '{' && c != '}' && !Text.isBlank c && (Token.Kind.ofSigil c).isNone

/-- A text in which some characters stand for halves of surrogate pairs. -/
structure RawText where
  text : String
  isHalf : Char → Bool
  /-- Halves mean nothing to the scanner. -/
  ordinary : ∀ c, isHalf c = true → Token.isOrdinary c = true

namespace RawText

/-- A text without halves of surrogate pairs. -/
def ofString (text : String) : RawText := ⟨text, fun _ => false, nofun⟩

/-- Whether a text has an encoding. -/
def isEncodable (r : RawText) : Bool := !r.text.toList.any r.isHalf

/-- That a text has no encoding. The words tell which half it is for and where. -/
def unencodable : Failure := ⟨.unencodable, ""⟩

/-- Compiles a text under a name. If that is empty, the key is made of the text, after the text has
been read. -/
def compile (r : RawText) (name : String) : Except Fault Template :=
  match Template.compile r.text name with
  | .error e => .error (.malformed e)
  | .ok t => if name = "" && !r.isEncodable then .error (.failure unencodable) else .ok t

end RawText

end Mustache
