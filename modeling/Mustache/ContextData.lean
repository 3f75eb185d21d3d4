import Mustache.Disk.Tree
import Mustache.Fault
import Mustache.Text.Encoding

/-!
# Context data

The mapping that a template is rendered with, read from a document. An empty document is an empty
mapping.
-/

namespace Mustache.ContextData

/-- The name of the standard input among the files of data. -/
def stdinName : String := "-"

/-- Reads a mapping from a document that came from somewhere. -/
def parse (reader : DocumentReader) (origin : String) (text : List Char) : Except Fault Value :=
  match reader text with
  | .error (.unreadable explanation) => .error (.contextData (.unreadable origin explanation))
  | .error (.scalar problem) => .error (.scalar problem)
  | .ok .null => .ok (.map [])
  | .ok (.map entries) => .ok (.map entries)
  | .ok v => .error (.contextData (.notMapping origin v.typeName))

/-- Reads a mapping from a file. -/
def ofFile (reader : DocumentReader) (d : Disk) (path : Path) : Except Fault Value :=
  if path.holdsNull then .error .invalidPath
  else
    match d.read path with
    | .error fault => .error (.contextData (.inaccessible path.text fault))
    | .ok bytes =>
      match Text.decode .utf8 bytes with
      | .error problem => .error (.encoding problem)
      | .ok text => parse reader path.text (Text.unifyLines text)

/-- Reads a mapping from a file or from the standard input; without either it is empty. -/
def load (reader : DocumentReader) (d : Disk) (source : Option String) (stdin : String) :
    Except Fault Value :=
  match source with
  | none => .ok (.map [])
  | some name =>
    if name = stdinName then parse reader "<stdin>" stdin.toList
    else ofFile reader d (.ofString name)

end Mustache.ContextData
