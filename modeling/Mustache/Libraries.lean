import Mustache.Value.Basic

/-!
# Libraries

Two things are left to libraries: reading a document, and reading patterns that pick paths. What is
built on them takes them as they are, whatever they read and whatever they refuse.
-/

namespace Mustache

/-! ## Documents -/

/-- Why a reader of documents fails although the document follows its notation. -/
inductive ScalarProblem
  /-- A number without digits, a day that does not exist, a code point above the last one. -/
  | impossibleValue
  /-- A word that is neither true nor false. -/
  | unknownWord
  /-- A number without any characters. -/
  | empty
  /-- A key that holds a value that can be changed. -/
  | unhashableKey
  /-- A code point too large for a machine word. -/
  | outOfRange
  /-- A key that an ordered mapping has twice. -/
  | repeatedKey
  /-- Anything else, by its name. -/
  | other (name : String)
deriving DecidableEq, Repr

/-- Why a document gives no value. -/
inductive DocumentProblem
  /-- It breaks the rules of its notation, which the reader explains in its own words. -/
  | unreadable (explanation : String)
  /-- The reader fails in another way. -/
  | scalar (problem : ScalarProblem)
deriving DecidableEq, Repr

/-- A reader of documents. -/
abbrev DocumentReader := List Char → Except DocumentProblem Value

/-! ## Patterns -/

/-- Why a pattern cannot be read. -/
inductive PatternProblem
  /-- There is nothing to match, or nothing behind an escape. -/
  | incomplete
  /-- A range whose ends are in the wrong order. -/
  | emptyRange
  /-- Anything else, by its name. -/
  | other (name : String)
deriving DecidableEq, Repr

/-- A reader of patterns, which gives whether they pick a path. -/
abbrev PatternReader := List String → Except PatternProblem (String → Bool)

/-- The libraries that a command works with. -/
structure Libraries where
  document : DocumentReader
  patterns : PatternReader

end Mustache
