import Mustache.Yaml.Problem

/-!
# Tokens of documents

Indentation shows in the tokens as the start and the end of blocks, so what comes after scanning
need not look at columns.
-/

namespace Mustache.Yaml

/-- A token of a document. -/
inductive Token
  /-- A directive; one that gives a name to the beginning of tags has that name and the
  beginning. -/
  | directive (shorthand : Option (String × String))
  | documentStart
  | documentEnd
  | blockSequence
  | blockMapping
  | blockEnd
  | flowSequence
  | flowSequenceEnd
  | flowMapping
  | flowMappingEnd
  | key
  | value
  /-- The dash of an item. -/
  | blockEntry
  /-- The comma between items. -/
  | flowEntry
  /-- An alias: the name of an anchor that it refers to. -/
  | reference (name : String)
  | anchor (name : String)
  /-- A tag: the name of its beginning, if it is shortened, and the rest. -/
  | tag (handle : Option String) (suffix : String)
  | scalar (text : String) (plain : Bool)
deriving DecidableEq, Repr, Inhabited

end Mustache.Yaml
