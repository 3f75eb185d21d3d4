import Mustache.Disk.Fault
import Mustache.Libraries
import Mustache.Template.SyntaxError
import Mustache.Text.Encoding

/-!
# Faults

Everything that can end an operation early, by its cause. Faults that a user can mend have a
wording; the others come from data, sinks, paths and encodings and are passed on as they are.
-/

namespace Mustache

/-- When a sink failed. -/
inductive OutputPhase
  | writing
  | flushing
deriving DecidableEq, Repr

/-- What is wrong with settings. -/
inductive SettingsProblem
  | unknownKeys (names : List String)
  | unreadable (explanation : String)
  | notMapping
  | suffixesNotList
  | strictNotBoolean
deriving DecidableEq, Repr

/-- What is wrong with the data for rendering. -/
inductive DataProblem
  | unreadable (origin explanation : String)
  | notMapping (origin typeName : String)
  | inaccessible (path : String) (fault : DiskFault)
deriving DecidableEq, Repr

/-- The cause that ends an operation. -/
inductive Fault
  | malformed (e : SyntaxError)
  /-- No text for a key. -/
  | unavailable (key reason : String)
  /-- A template that includes itself, or a key whose compilation asks for itself. -/
  | cycle (chain : List String)
  | output (phase : OutputPhase) (cause : Failure)
  | settings (path : Option String) (problem : SettingsProblem)
  | contextData (problem : DataProblem)
  /-- A failure of data or of a sink, as it came. -/
  | failure (f : Failure)
  | unsupportedNode
  | rootFrame
  /-- Keys of settings that cannot be listed by name. -/
  | unnamedKeys
  /-- A document cannot be read for another reason than its notation. -/
  | scalar (problem : ScalarProblem)
  | encoding (problem : EncodingProblem)
  | invalidPath
  | badPattern (problem : PatternProblem)
  | disk (fault : DiskFault)
  /-- A log level that is no level. -/
  | badLogLevel (ofWrongType : Bool)
  /-- More nested templates than a source can name; no rendering ends so. -/
  | exhausted
deriving DecidableEq, Repr

namespace SettingsProblem

/-- The wording of a problem. -/
def message : SettingsProblem → String
  | .unknownKeys names => "Unknown config keys: " ++ String.intercalate ", " names
  | .unreadable explanation => "Invalid YAML: " ++ explanation
  | .notMapping => "YAML must be a mapping"
  | .suffixesNotList => "'suffixes' must be a list or a comma-separated string"
  | .strictNotBoolean => "'strict_partials' must be a boolean"

end SettingsProblem

namespace DataProblem

/-- The wording of a problem. -/
def message : DataProblem → String
  | .unreadable origin explanation =>
    "Invalid context data in " ++ origin ++ ": " ++ explanation
  | .notMapping origin typeName =>
    "Context data in " ++ origin ++ " must be a mapping, got " ++ typeName
  | .inaccessible path fault => "Failed to read context file " ++ path ++ ": " ++ fault.message

end DataProblem

namespace Fault

/-- Whether a user can mend the cause, so that its wording alone is reported. -/
def isUserFault : Fault → Bool
  | .malformed _ | .unavailable .. | .cycle _ | .output .. | .settings .. | .contextData _ => true
  | .failure f => f.kind.hasTrait .user
  | _ => false

/-- The wording of a fault; empty for those that are only passed on. -/
def message : Fault → String
  | .malformed e => e.message
  | .unavailable key reason =>
    "Template source not found: " ++ key ++ (if reason = "" then "" else ": " ++ reason)
  | .cycle chain => "Recursive template inclusion: " ++ String.intercalate " -> " chain
  | .output .writing cause => "Failed to write rendered output: " ++ cause.message
  | .output .flushing cause => "Failed to flush rendered output: " ++ cause.message
  | .settings path problem =>
    (match path with
      | none => ""
      | some p => if p = "" then "" else p ++ ": ") ++ problem.message
  | .contextData problem => problem.message
  | .failure f => f.message
  | .unsupportedNode => "Unsupported template node: TemplateNode"
  | .rootFrame => "Cannot pop the root context frame"
  | .disk fault => fault.message
  | _ => ""

end Fault

end Mustache
