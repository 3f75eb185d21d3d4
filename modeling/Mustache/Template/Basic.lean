import Mustache.Template.Parse
import Mustache.Template.Scan
import Mustache.Text.Digest

/-!
# Templates

A template is a key and nodes. A template without a name is known by a digest of its text, so equal
texts have equal keys.
-/

namespace Mustache

/-- A compiled template. -/
structure Template where
  key : String
  nodes : List Node
deriving Repr, Inhabited

namespace Template

/-- The key of a template without a name. -/
def textKey (text : String) : String :=
  "inline:" ++ String.ofList ((Text.Sha1.digest text.toUTF8.toList).take 16)

/-- The nodes of a template's text. -/
def parse (text : String) : Except SyntaxError (List Node) :=
  match Token.scan text.toList with
  | .error e => .error e
  | .ok tokens => Node.ofTokens tokens

/-- Compiles a text under a name, which may be empty. -/
def compile (text name : String) : Except SyntaxError Template :=
  match parse text with
  | .error e => .error (e.named name)
  | .ok nodes => .ok ⟨if name = "" then textKey text else name, nodes⟩

/-- A template as it is shown to a developer. -/
def inspected (t : Template) : String :=
  s!"Template({Text.quoted t.key}, nodes={t.nodes.length})"

end Template

end Mustache
