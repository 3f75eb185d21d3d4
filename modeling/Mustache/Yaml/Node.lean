import Mustache.Yaml.Tag
import Mustache.Yaml.Token

/-!
# Nodes of documents

A document is a tree of scalars, sequences and mappings. Aliases have been replaced by the nodes
they stand for, and the mappings under a merge key have been put in front of a mapping's own
entries.
-/

namespace Mustache.Yaml

/-- What became of the merge keys of a mapping. -/
inductive Merging
  /-- Nothing was merged, so no key may stand twice. -/
  | none
  | merged
  /-- Something that is no mapping should have been merged, or a second merge key followed. -/
  | failed
deriving DecidableEq, Repr

/-- A node of a document. -/
inductive Node
  | scalar (tag : Tag) (text : List Char)
  | sequence (tag : Tag) (items : List Node)
  | mapping (tag : Tag) (entries : List (Node × Node)) (merging : Merging)
deriving Inhabited

namespace Node

/-- Whether a node is a merge key. -/
def isMerge : Node → Bool
  | .scalar tag _ => tag == .merge
  | _ => false

/-- The entries that a node gives to a mapping that merges it. -/
def mergeEntries? : Node → Option (List (Node × Node))
  | .mapping _ entries merging => if merging = .failed then none else some entries
  | _ => none

/-- The entries of all nodes of a list, those of later nodes first. -/
def allMergeEntries? : List Node → Option (List (Node × Node))
  | [] => some []
  | node :: rest => do
    let first ← node.mergeEntries?
    let others ← allMergeEntries? rest
    return others ++ first

/-- The entries that the value of a merge key gives: those of a mapping or of a list of mappings. -/
def merged? : Node → Option (List (Node × Node))
  | .sequence _ items => allMergeEntries? items
  | node => node.mergeEntries?

/-- The merged and the own entries among written ones; nothing may be merged twice. -/
def splitMerged? : (merged : List (Node × Node)) → List (Node × Node) →
    Option (List (Node × Node) × List (Node × Node))
  | merged, [] => some (merged, [])
  | merged, (key, value) :: rest =>
    if key.isMerge then
      if merged.isEmpty then do splitMerged? (← value.merged?) rest else none
    else do
      let (merged, own) ← splitMerged? merged rest
      return (merged, (key, value) :: own)

/-- A mapping with entries as they are written. -/
def ofEntries (tag : Tag) (entries : List (Node × Node)) : Node :=
  match splitMerged? [] entries with
  | none => .mapping tag entries .failed
  | some (merged, own) => .mapping tag (merged ++ own) (if merged.isEmpty then .none else .merged)

end Node

end Mustache.Yaml
