/-!
# Nodes

A compiled template is a list of nodes; a block has a list of nodes as its body.
-/

namespace Mustache

/-- A node of a compiled template. -/
inductive Node
  | text (s : String)
  /-- A value is written, escaped or as it is. -/
  | variable (name : String) (escape : Bool)
  /-- A section, or an inverted section. -/
  | block (inverted : Bool) (name : String) (body : List Node)
  /-- Another template is rendered in place. -/
  | inclusion (name : String)
  | comment (s : String)
  /-- A node that renders nothing and cannot be rendered; no template text compiles to it. -/
  | foreign
deriving Repr, Inhabited

namespace Node

/-- Puts text in front of nodes, into the first one if it is text. -/
def consText (s : String) : List Node → List Node
  | .text t :: rest => .text (s ++ t) :: rest
  | nodes => .text s :: nodes

mutual

/-- The names of the templates that a node includes, at any depth. -/
def inclusions : Node → List String
  | .inclusion name => [name]
  | .block _ _ body => allInclusions body
  | _ => []

/-- The names of the templates that nodes include, at any depth. -/
def allInclusions : List Node → List String
  | [] => []
  | node :: rest => inclusions node ++ allInclusions rest

end

end Node

end Mustache
