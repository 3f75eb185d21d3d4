/-!
# Notices

What happens on the way that is worth telling, each with its level, the part of the library that
tells it, and its wording.
-/

namespace Mustache

/-- The two spaces of keys under which templates are kept: by their text and by their name. -/
inductive Keyspace
  | inline
  | named
deriving DecidableEq, Repr

namespace Keyspace

/-- The written name of a space. -/
def label : Keyspace → String
  | .inline => "inline"
  | .named => "named"

end Keyspace

/-- How much a notice matters. -/
inductive Level
  | debug
  | warning
deriving DecidableEq, Repr

namespace Level

/-- The written name of a level. -/
def label : Level → String
  | .debug => "DEBUG"
  | .warning => "WARNING"

/-- The rank of a level. -/
def rank : Level → Nat
  | .debug => 10
  | .warning => 30

end Level

/-- Something that happened. -/
inductive Notice
  | tokenized (tokens lines : Nat)
  | parsed (nodes : Nat)
  | compiled (space : Keyspace) (key : String) (nodes : Nat)
  | cleared
  | loaded (key path : String)
  | including (name : String) (depth : Nat)
  | missingInclusion (name : String)
  | flushFailed (reason : String)
  /-- A source was asked for a text. This goes into no log. -/
  | asked (key : String)
deriving DecidableEq, Repr

namespace Notice

/-- The level of a notice, if it goes into the log at all. -/
def level? : Notice → Option Level
  | .asked _ => none
  | .missingInclusion _ | .flushFailed _ => some .warning
  | _ => some .debug

/-- The part of the library that tells a notice. -/
def teller : Notice → String
  | .tokenized .. => "stache.template.lexer"
  | .parsed _ => "stache.template.parser"
  | .compiled .. | .cleared => "stache.cache"
  | .loaded .. | .asked _ => "stache.sources"
  | .including .. | .flushFailed _ => "stache.template.renderer"
  | .missingInclusion _ => "stache.engine"

/-- The wording of a notice. -/
def message : Notice → String
  | .tokenized tokens lines => s!"Tokenized template into {tokens} tokens over {lines} lines"
  | .parsed nodes => s!"Parsed template -> {nodes} top-level nodes"
  | .compiled space key nodes =>
    "Compiled " ++ space.label ++ " template '" ++ key ++ s!"' -> {nodes} nodes"
  | .cleared => "Template cache cleared"
  | .loaded key path => "Loaded template '" ++ key ++ "' from " ++ path
  | .including name depth =>
    "Rendering partial '" ++ name ++ s!"' at context depth {depth}"
  | .missingInclusion name => "Partial '" ++ name ++ "' not found, rendering it as empty"
  | .flushFailed reason => "Failed to flush output after render failure: " ++ reason
  | .asked key => "Asked for '" ++ key ++ "'"

/-- The wordings of the warnings among some notices. -/
def warnings (notices : List Notice) : List String :=
  (notices.filter fun notice => notice.level? = some .warning).map message

end Notice

end Mustache
