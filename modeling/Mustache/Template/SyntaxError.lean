/-!
# Syntax errors

What can be wrong with the text of a template, with the line at which it shows and the name of the
template once it is known.
-/

namespace Mustache

/-- What is wrong with a template. -/
inductive SyntaxProblem
  /-- A closing delimiter before the next tag of the line. -/
  | strayClose (column : Nat)
  | unclosedTag (column : Nat)
  | emptyTag (column : Nat)
  /-- A tag that opens with three braces and does not close with three. -/
  | unclosedTriple (content : String)
  | missingName (content : String)
  | unexpectedClose (name : String)
  | mismatchedClose (opened closed : String)
  | unclosedSection (name : String)
deriving DecidableEq, Repr

namespace SyntaxProblem

/-- A tag's content between its delimiters. -/
def tag (content : String) : String := "\x7b\x7b" ++ content ++ "\x7d\x7d"

/-- The wording of a problem. -/
def message : SyntaxProblem → String
  | .strayClose column => s!"Found unmatched end delimiter '\x7d\x7d' at column {column}"
  | .unclosedTag column => s!"Tag opened at column {column} is not closed on the same line"
  | .emptyTag column => s!"Empty tag at column {column}"
  | .unclosedTriple content => "Unescaped variable tag not terminated properly: " ++ tag content
  | .missingName content => "Missing name in tag " ++ tag content
  | .unexpectedClose name => "Unexpected closing tag '" ++ name ++ "'"
  | .mismatchedClose opened closed => "Mismatched start/end tags: " ++ opened ++ " != " ++ closed
  | .unclosedSection name => "Unclosed section '" ++ name ++ "'"

end SyntaxProblem

/-- A problem at a line of a template; the template's name is empty while it is not known. -/
structure SyntaxError where
  problem : SyntaxProblem
  line : Int
  template : String
deriving DecidableEq, Repr

namespace SyntaxError

/-- A problem of a template without a name. -/
def atLine (problem : SyntaxProblem) (line : Int) : SyntaxError := ⟨problem, line, ""⟩

/-- The error with a template's name, unless it has one or the name is empty. -/
def named (name : String) (e : SyntaxError) : SyntaxError :=
  if name ≠ "" && e.template = "" then { e with template := name } else e

/-- The wording of an error. -/
def message (e : SyntaxError) : String :=
  (if e.template = "" then "" else e.template ++ ": ") ++ e.problem.message ++ s!" at line {e.line}"

end SyntaxError

end Mustache
