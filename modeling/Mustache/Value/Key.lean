import Mustache.Value.Basic

/-!
# Keys of mappings

When two values are the same key: numbers by their value, whatever their type, ranges by their
items, and all other values by type and content. A later entry with the same key replaces the value
and keeps the first key and its place.
-/

namespace Mustache.Value

/-- The whole number that a numeric value is equal to. -/
def whole? : Value → Option Int
  | .bool b => some (if b then 1 else 0)
  | .int n => some n
  | .float x => x.toInt?
  | _ => none

/-- Whether two ranges have the same items. -/
def sameRange (start stop step start' stop' step' : Int) : Bool :=
  let count := rangeCount start stop step
  count == rangeCount start' stop' step'
    && (count == 0 || (start == start' && (count == 1 || step == step')))

mutual

/-- Whether two values are one key. -/
def sameKey (v w : Value) : Bool :=
  match v.whole?, w.whole? with
  | some m, some n => m == n
  | some _, none | none, some _ => false
  | none, none =>
    match v, w with
    | .null, .null => true
    | .float x, .float y => x.same y
    | .text s, .text t => s == t
    | .bytes s, .bytes t => s == t
    | .date c, .date d => c == d
    | .moment m, .moment n => m == n
    | .range a b c, .range d e f => sameRange a b c d e f
    | .tuple xs, .tuple ys | .frozenSet xs, .frozenSet ys => sameKeys xs ys
    | _, _ => false

/-- Whether two lists hold the same keys in the same order. -/
def sameKeys : List Value → List Value → Bool
  | [], [] => true
  | x :: xs, y :: ys => sameKey x y && sameKeys xs ys
  | _, _ => false

end

/-- Whether a value can be a key at all. -/
inductive Hashing
  | hashable
  /-- The value itself changes in place. -/
  | mutable
  /-- The value holds one that changes in place. -/
  | holdsMutable
deriving DecidableEq, Repr

mutual

/-- How far a value can be a key. -/
def hashing : Value → Hashing
  | .list _ | .map _ | .set _ | .buffer .. | .view .. => .mutable
  | .tuple items => if allHashable items then .hashable else .holdsMutable
  | _ => .hashable

/-- Whether every item can be a key. -/
def allHashable : List Value → Bool
  | [] => true
  | item :: rest => hashing item == .hashable && allHashable rest

end

/-- The value under a key. -/
def find? (key : Value) (entries : List (Value × Value)) : Option Value :=
  (entries.find? fun entry => entry.1.sameKey key).map Prod.snd

/-- Puts a value under a key. -/
def put (key value : Value) : List (Value × Value) → List (Value × Value)
  | [] => [(key, value)]
  | entry :: rest =>
    if entry.1.sameKey key then (entry.1, value) :: rest else entry :: put key value rest

end Mustache.Value
