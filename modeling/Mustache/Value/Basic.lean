import Mustache.Calendar
import Mustache.Number.Shortest

/-!
# Values

The data that templates are rendered with: scalars, collections, mappings, dates and objects with
members. An iterator that can be read once, and a buffer that can be changed in place, carry an
identity by which that is remembered.
-/

namespace Mustache

/-- What the code asks of the type of an error. -/
inductive ErrorTrait
  /-- It is an error of input or output, or of a value. -/
  | output
  /-- It tells of a missing attribute. -/
  | attribute
  /-- A user can mend what it tells of. -/
  | user
  /-- It is the error that rendering raises for a sink. -/
  | render
  /-- It is the error that compiling raises for a text. -/
  | malformed
deriving DecidableEq, Repr

/-- The kinds of failure that data and sinks bring about. -/
inductive FailureKind
  | os
  | value
  | type
  | attribute
  | key
  | runtime
  /-- A method was called without an argument that it needs. -/
  | missingArgument
  /-- Something was taken from what is empty. -/
  | nothingLeft
  /-- Bytes that are no text were read as text. -/
  | undecodable
  /-- A text was written where it cannot be encoded. -/
  | unencodable
  /-- A number with more digits than may be written was written. -/
  | tooManyDigits
  /-- Any other error by its name, those of rendering and compiling among them, and what its type
  makes it. -/
  | other (name : String) (traits : List ErrorTrait)
deriving DecidableEq, Repr, Inhabited

/-- Whether failures of a kind have a trait. -/
def FailureKind.hasTrait (kind : FailureKind) (t : ErrorTrait) : Bool :=
  match kind with
  | .os | .value | .undecodable | .unencodable | .tooManyDigits => t == .output
  | .attribute => t == .attribute
  | .type | .key | .runtime | .missingArgument | .nothingLeft => false
  | .other _ traits => traits.contains t

/-- A failure brought about by data or by a sink. -/
structure Failure where
  kind : FailureKind
  message : String
deriving DecidableEq, Repr, Inhabited

/-- What tells a buffer from every other one. -/
inductive BufferId
  /-- A buffer of the data. -/
  | given (n : Nat)
  /-- A buffer that a look-up has made, among others of the same look-up. -/
  | made (origin index : Nat)
deriving DecidableEq, Repr

/-- A number above the origin of a buffer that a look-up has made. -/
def BufferId.origin : BufferId → Nat
  | .given _ => 0
  | .made origin _ => origin + 1

mutual

/-- A value of the data. -/
inductive Value
  | null
  | bool (b : Bool)
  | int (n : Int)
  | float (x : Binary64)
  | text (s : String)
  | bytes (bytes : List UInt8)
  /-- Bytes that can be changed in place. -/
  | buffer (id : BufferId) (bytes : List UInt8)
  | list (items : List Value)
  | tuple (items : List Value)
  | set (items : List Value)
  | frozenSet (items : List Value)
  | range (start stop step : Int)
  /-- An iterator that gives its items once; `id` tells it from every other one. -/
  | stream (id : Nat) (items : List Value)
  | map (entries : List (Value × Value))
  /-- A mapping with a text of its own. -/
  | view (entries : List (Value × Value)) (shown : String)
  | date (d : Date)
  | moment (m : Moment)
  /-- An object: its members by name, its items if it can be iterated or the failure that comes of
  it, its text, and the failure that asking for the text brings about, if any. -/
  | object (members : List (String × Member)) (items : Except Failure (Option (List Value)))
      (shown : String) (textFailure : Option Failure)

/-- What an object answers for the name of a member. -/
inductive Member
  /-- A field, or a property or method that gives a value. -/
  | value (v : Value)
  | failingProperty (failure : Failure)
  | failingMethod (failure : Failure)

end

namespace Value

instance : Inhabited Value := ⟨.null⟩

/-- The name of a value's type. -/
def typeName : Value → String
  | .null => "NoneType"
  | .bool _ => "bool"
  | .int _ => "int"
  | .float _ => "float"
  | .text _ => "str"
  | .bytes _ => "bytes"
  | .buffer .. => "bytearray"
  | .list _ => "list"
  | .tuple _ => "tuple"
  | .set _ => "set"
  | .frozenSet _ => "frozenset"
  | .range .. => "range"
  | .stream .. => "generator"
  | .map _ => "dict"
  | .view .. => "Mapping"
  | .date _ => "date"
  | .moment _ => "datetime"
  | .object .. => "object"

/-- The number of items of a range. -/
def rangeCount (start stop step : Int) : Nat :=
  if 0 < step then ((stop - start + step - 1).fdiv step).toNat
  else if step < 0 then ((start - stop - step - 1).fdiv (-step)).toNat
  else 0

/-- The items of a range. -/
def rangeItems (start stop step : Int) : List Value :=
  (List.range (rangeCount start stop step)).map fun (i : Nat) => .int (start + i * step)

/-- The items of a value that holds items, whether or not a stream has been read before. Texts,
bytes and mappings count as single values. -/
def items? : Value → Except Failure (Option (List Value))
  | .list items | .tuple items | .set items | .frozenSet items | .stream _ items =>
    .ok (some items)
  | .range start stop step => .ok (some (rangeItems start stop step))
  | .object _ items _ _ => items
  | _ => .ok none

/-- Whether a value is absent or false. -/
def isAbsent : Value → Bool
  | .null | .bool false => true
  | _ => false

end Value

end Mustache
