import Mustache.Libraries

/-!
# Problems of documents

A document that breaks the rules of its notation cannot be read at all. Apart from that, a scalar
may follow the notation of its type and still stand for nothing.
-/

namespace Mustache.Yaml

/-- Why a document gives no value. -/
inductive Problem
  | unreadable
  | scalar (problem : ScalarProblem)
deriving DecidableEq, Repr

namespace Problem

/-- What is told of a document that cannot be read. -/
def explanation : String := "the document does not follow its notation"

/-- A problem as it is told to those who asked for the document. -/
def told : Problem → DocumentProblem
  | .unreadable => .unreadable explanation
  | .scalar problem => .scalar problem

end Problem

end Mustache.Yaml
