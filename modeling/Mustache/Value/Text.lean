import Mustache.Text.Escape
import Mustache.Value.Basic

/-!
# The text of a value

A value is shown by its text; inside a collection it is shown by its inspected form, in which texts
are quoted. Absent values have no text, and whole numbers with too many digits cannot be written.
-/

namespace Mustache.Value

/-- Items between commas. -/
private def commas (items : List String) : String := String.intercalate ", " items

mutual

/-- A value as it is shown inside a collection. -/
def inspected : Value → String
  | .null => "None"
  | .bool b => if b then "True" else "False"
  | .int n => toString n
  | .float x => x.text
  | .text s => Text.quoted s
  | .bytes bs => Text.quotedBytes bs
  | .buffer _ bs => "bytearray(" ++ Text.quotedBuffer bs ++ ")"
  | .list items => "[" ++ commas (inspectedItems items) ++ "]"
  | .tuple items =>
    match inspectedItems items with
    | [item] => "(" ++ item ++ ",)"
    | shown => "(" ++ commas shown ++ ")"
  | .set items =>
    match inspectedItems items with
    | [] => "set()"
    | shown => "\x7b" ++ commas shown ++ "\x7d"
  | .frozenSet items =>
    match inspectedItems items with
    | [] => "frozenset()"
    | shown => "frozenset(\x7b" ++ commas shown ++ "\x7d)"
  | .range start stop step =>
    if step = 1 then s!"range({start}, {stop})" else s!"range({start}, {stop}, {step})"
  | .stream .. => "<gen>"
  | .map entries => "\x7b" ++ commas (inspectedEntries entries) ++ "\x7d"
  | .view _ shown => shown
  | .date d => d.inspected
  | .moment m => m.inspected
  | .object _ _ shown _ => shown

/-- `inspected` on each item. -/
def inspectedItems : List Value → List String
  | [] => []
  | item :: rest => inspected item :: inspectedItems rest

/-- Keys and values with a colon between them. -/
def inspectedEntries : List (Value × Value) → List String
  | [] => []
  | (key, value) :: rest => (inspected key ++ ": " ++ inspected value) :: inspectedEntries rest

end

/-- The most digits that a whole number may be written with. -/
def mostDigits : Nat := 4300

/-- Whether a whole number has no more digits than may be written. -/
def hasFewDigits (n : Int) : Bool := (Nat.toDigits 10 n.natAbs).length ≤ mostDigits

mutual

/-- Whether a value can be written: no whole number that its inspected form shows has too many
digits. -/
def isWritable : Value → Bool
  | .int n => hasFewDigits n
  | .list items | .tuple items | .set items | .frozenSet items => allWritable items
  | .range start stop step => hasFewDigits start && hasFewDigits stop && hasFewDigits step
  | .map entries => entriesWritable entries
  | _ => true

/-- Whether every item can be written. -/
def allWritable : List Value → Bool
  | [] => true
  | item :: rest => isWritable item && allWritable rest

/-- Whether every key and every value can be written. -/
def entriesWritable : List (Value × Value) → Bool
  | [] => true
  | (key, value) :: rest => isWritable key && isWritable value && entriesWritable rest

end

/-- Writing a number with too many digits. -/
def tooManyDigits : Failure :=
  ⟨.tooManyDigits, s!"a whole number has more than {mostDigits} digits"⟩

/-- A value's own text. -/
def text? : Value → Except Failure String
  | .text s => .ok s
  | .date d => .ok d.text
  | .moment m => .ok m.text
  | .object _ _ shown none => .ok shown
  | .object _ _ _ (some failure) => .error failure
  | v => if v.isWritable then .ok v.inspected else .error tooManyDigits

/-- What a variable tag writes for a value: nothing for an absent one, else its text, escaped on
demand. -/
def shown (v : Value) (escape : Bool) : Except Failure String :=
  match v with
  | .null => .ok ""
  | v => v.text?.map fun s => if escape then Text.escape s else s

end Mustache.Value
