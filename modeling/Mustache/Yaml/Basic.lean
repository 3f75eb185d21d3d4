import Mustache.Value.Key
import Mustache.Yaml.Compose
import Mustache.Yaml.Notation

/-!
# Documents

Reading a document gives the value of its root node. Collections are filled one level after the
other, keys at once; of several problems the one that is met first in this order counts.
-/

namespace Mustache.Yaml

/-- A problem and the level at which it is met. -/
structure Late where
  level : Nat
  problem : Problem
deriving DecidableEq, Repr

/-- A value, or the first problem on the way to it. -/
abbrev Built (α : Type) := Except Late α

namespace Built

/-- Both of two results; of two problems the one of the lower level counts, of one level the
first. -/
def both {α β γ : Type} (f : α → β → γ) : Built α → Built β → Built γ
  | .ok a, .ok b => .ok (f a b)
  | .error e, .ok _ | .ok _, .error e => .error e
  | .error e, .error later => .error (if later.level < e.level then later else e)

/-- A problem at a level. -/
def fail {α : Type} (level : Nat) (problem : Problem := .unreadable) : Built α :=
  .error ⟨level, problem⟩

/-- A result that is met at a level. -/
def atLevel {α : Type} (level : Nat) : Except Problem α → Built α
  | .ok a => .ok a
  | .error problem => .error ⟨level, problem⟩

/-- The key that a value is: a list is a key by its items. -/
def key (level : Nat) (v : Value) : Built Value :=
  match v with
  | .list items => .ok (.tuple items)
  | v => if v.hashing = .mutable then fail level else .ok v

/-- Whether a key can join others, among which it may not be if `distinct`. -/
def joins (level : Nat) (distinct : Bool) (key : Value) (others : List Value) : Built Unit :=
  if key.hashing ≠ .hashable then fail level (.scalar .unhashableKey)
  else if distinct && others.any fun other => other.sameKey key then fail level
  else .ok ()

/-- Whether the keys of an ordered mapping are distinct. -/
def ordered (level : Nat) : List (Value × Value) → (before : List Value) → Built Unit
  | [], _ => .ok ()
  | (key, _) :: rest, before =>
    if key.hashing ≠ .hashable then fail level (.scalar .unhashableKey)
    else if before.any fun other => other.sameKey key then fail level (.scalar .repeatedKey)
    else ordered level rest (key :: before)

/-- The mapping of some entries. -/
def mapping (entries : List (Value × Value)) : List (Value × Value) :=
  entries.foldl (fun all entry => Value.put entry.1 entry.2 all) []

/-- A pair as a value. -/
def pair (entry : Value × Value) : Value := .tuple [entry.1, entry.2]

/-- The key that stands for a mapping's own value is text. -/
def ownValueKey? : Node → Option Value
  | .scalar .value s => some (.text (String.ofList s))
  | _ => none

/-- The level at which the content of a collection is met. -/
def inside (deep : Bool) (level : Nat) : Nat := if deep then level else level + 1

mutual

/-- The value of a node that is met at a level; within keys (`deep`) all is met at once. -/
def node (deep : Bool) (level : Nat) : Node → Built Value
  | .scalar tag s =>
    match tag with
    | .sequence | .mapping | .set | .pairs | .orderedMapping => fail (inside deep level)
    | tag => atLevel level (scalarValue tag s)
  | .sequence tag items =>
    let below := inside deep level
    match tag with
    | .sequence => (nodes deep below items).map .list
    | .pairs => (singles deep below items).map fun entries => .list (entries.map pair)
    | .orderedMapping =>
      match singles deep below items with
      | .error e => .error e
      | .ok entries => (ordered below entries []).map fun _ => .map entries
    | .mapping | .set => fail below
    | _ => fail level
  | .mapping tag entries merging =>
    let below := inside deep level
    let filled := if merging = .failed then fail below
      else keyed deep below (merging = .none) [] entries
    match tag with
    | .mapping => filled.map fun entries => .map (mapping entries)
    | .set => filled.map fun entries => .set ((mapping entries).map Prod.fst)
    | .sequence | .pairs | .orderedMapping => fail below
    | _ => fail level

/-- The values of nodes. -/
def nodes (deep : Bool) (level : Nat) : List Node → Built (List Value)
  | [] => .ok []
  | first :: rest => both List.cons (node deep level first) (nodes deep level rest)

/-- The entries of a mapping; the keys before these are given. -/
def keyed (deep : Bool) (level : Nat) (distinct : Bool) (before : List Value) :
    List (Node × Node) → Built (List (Value × Value))
  | [] => .ok []
  | (keyNode, valueNode) :: rest =>
    let found : Built Value := match ownValueKey? keyNode with
      | some v => .ok v
      | none =>
        match node true level keyNode with
        | .error e => .error e
        | .ok v => key level v
    match found with
    | .error e => .error e
    | .ok k =>
      let entry := both (fun v _ => (k, v)) (node deep level valueNode)
        (joins level distinct k before)
      both List.cons entry (keyed deep level distinct (k :: before) rest)

/-- The entries of mappings with one entry each. -/
def singles (deep : Bool) (level : Nat) : List Node → Built (List (Value × Value))
  | [] => .ok []
  | .mapping _ [(keyNode, valueNode)] _ :: rest =>
    both List.cons (both Prod.mk (node deep level keyNode) (node deep level valueNode))
      (singles deep level rest)
  | _ :: _ => fail level

end

end Built

end Mustache.Yaml

namespace Mustache

/-- The value of a document; nothing for one without content. -/
def Yaml.load (s : List Char) : Except Yaml.Problem Value := do
  let tokens ← Yaml.Token.scan s
  match ← Yaml.Node.ofTokens tokens with
  | none => return .null
  | some root =>
    match Yaml.Built.node false 0 root with
    | .error e => throw e.problem
    | .ok v => return v

/-- The reader of documents that comes with the program. -/
def Yaml.reader : DocumentReader := fun s => (Yaml.load s).mapError Yaml.Problem.told

end Mustache
