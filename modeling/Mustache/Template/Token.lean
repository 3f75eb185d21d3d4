import Mustache.Text.Quoted

/-!
# Tokens

Every tag of a template is one token, and so is every stretch of text that is printed.
-/

namespace Mustache

namespace Token

/-- The kinds of tokens. -/
inductive Kind
  | text
  | variable
  | unescaped
  | sectionStart
  | invertedStart
  | sectionEnd
  | inclusion
  | comment
  | pragma
  /-- The end of the template. -/
  | finish
deriving DecidableEq, Repr, Inhabited

namespace Kind

/-- The written name of a kind. -/
def name : Kind → String
  | .text => "TEXT"
  | .variable => "VARIABLE"
  | .unescaped => "UNESCAPED"
  | .sectionStart => "SECTION_START"
  | .invertedStart => "INVERTED_START"
  | .sectionEnd => "SECTION_END"
  | .inclusion => "PARTIAL"
  | .comment => "COMMENT"
  | .pragma => "PRAGMA"
  | .finish => "EOF"

/-- All kinds. -/
def all : List Kind :=
  [.text, .variable, .unescaped, .sectionStart, .invertedStart, .sectionEnd, .inclusion, .comment,
   .pragma, .finish]

/-- The kind with a written name. -/
def ofName? (name : String) : Option Kind := all.find? fun kind => kind.name == name

theorem ofName?_name (kind : Kind) : ofName? kind.name = some kind := by
  cases kind <;> decide

end Kind

end Token

/-- A token: its kind, its text or trimmed name, and the line and column where it starts, which
scanning counts from 1. -/
structure Token where
  kind : Token.Kind
  value : String
  line : Int
  column : Int
deriving DecidableEq, Repr, Inhabited

namespace Token

/-- A token as it is shown to a developer. -/
def inspected (t : Token) : String :=
  s!"Token({t.kind.name}, {Text.quoted t.value}, {t.line}:{t.column})"

/-- The token that ends a template whose last line has a number. -/
def finishAt (line : Int) : Token := ⟨.finish, "", line, 1⟩

end Token

end Mustache
