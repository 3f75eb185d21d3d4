import Mustache.Value.Member

/-!
# What using values leaves behind

Reading a stream uses it up, and some methods of a buffer change what it holds. Values themselves
stay as they were given; a memory tells of them what has been changed since, and each is taken as
the memory has it.
-/

namespace Mustache

/-- What has been done to the values in use. -/
structure Memory where
  /-- The identities of the streams that have been read. -/
  spent : List Nat := []
  /-- What the buffers hold that have been changed. -/
  buffers : List (BufferId × List UInt8) := []
deriving DecidableEq, Repr

namespace Memory

/-- What a buffer holds that held some bytes at first. -/
def held (m : Memory) (id : BufferId) (bytes : List UInt8) : List UInt8 :=
  (m.buffers.lookup id).getD bytes

/-- Remembers what a buffer holds. -/
def hold (m : Memory) (id : BufferId) (bytes : List UInt8) : Memory :=
  { m with buffers := (id, bytes) :: m.buffers.filter fun entry => entry.1 ≠ id }

/-- What there is to remember when a name has been looked up in a value. -/
def lookedUp (m : Memory) (v : Value) (name : String) : Memory :=
  match v with
  | .buffer id bytes =>
    if Value.Buffer.after bytes name = bytes then m else m.hold id (Value.Buffer.after bytes name)
  | _ => m

/-- The items of a value that holds items. A stream gives them once and is empty ever after. -/
def items? (v : Value) (m : Memory) : Except Failure (Option (List Value)) × Memory :=
  match v with
  | .stream id items =>
    if id ∈ m.spent then (.ok (some []), m)
    else (.ok (some items), { m with spent := id :: m.spent })
  | v => (v.items?, m)

/-- A number that is no origin of what has been changed. -/
def origin (m : Memory) : Nat :=
  m.buffers.foldr (fun entry n => max entry.1.origin n) 0

end Memory

namespace Value

/-- A number above the origin of a buffer. -/
def origin : Value → Nat
  | .buffer id _ => id.origin
  | _ => 0

mutual

/-- A value with all that has been changed in it. -/
def refreshed (m : Memory) : Value → Value
  | .buffer id content => .buffer id (m.held id content)
  | .list items => .list (allRefreshed m items)
  | .tuple items => .tuple (allRefreshed m items)
  | .set items => .set (allRefreshed m items)
  | .frozenSet items => .frozenSet (allRefreshed m items)
  | .stream id items => .stream id (allRefreshed m items)
  | .map entries => .map (entriesRefreshed m entries)
  | .view entries shown => .view (entriesRefreshed m entries) shown
  | .object members (.ok (some items)) shown textFailure =>
    .object (membersRefreshed m members) (.ok (some (allRefreshed m items))) shown textFailure
  | .object members items shown textFailure =>
    .object (membersRefreshed m members) items shown textFailure
  | v => v

/-- Refreshes each item. -/
def allRefreshed (m : Memory) : List Value → List Value
  | [] => []
  | item :: rest => refreshed m item :: allRefreshed m rest

/-- Refreshes the value of each entry. -/
def entriesRefreshed (m : Memory) : List (Value × Value) → List (Value × Value)
  | [] => []
  | (key, value) :: rest => (key, refreshed m value) :: entriesRefreshed m rest

/-- Refreshes each member. -/
def membersRefreshed (m : Memory) : List (String × Member) → List (String × Member)
  | [] => []
  | (name, member) :: rest => (name, memberRefreshed m member) :: membersRefreshed m rest

/-- Refreshes the value that a member gives. -/
def memberRefreshed (m : Memory) : Member → Member
  | .value v => .value (refreshed m v)
  | .failingProperty failure => .failingProperty failure
  | .failingMethod failure => .failingMethod failure

end

/-- A value as it is by now: the one that was given, until a buffer is changed. -/
def asOf (m : Memory) (v : Value) : Value := if m.buffers.isEmpty then v else v.refreshed m

end Value

end Mustache
