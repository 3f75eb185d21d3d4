import Mustache.Text.Digits

/-!
# Reports

Reports are written in JSON over several lines, each level indented by two blanks. Characters
outside of ASCII stand as they are; control characters, quotes and backslashes are escaped.
-/

namespace Mustache

/-- A report. -/
inductive Report
  | null
  | number (n : Int)
  | text (s : String)
  | list (items : List Report)
  | object (members : List (String × Report))

namespace Report

/-- A character between quotes. -/
def escapedChar (c : Char) : List Char :=
  let n := c.toNat
  if c == '"' || c == '\\' then ['\\', c]
  else if c == '\n' then ['\\', 'n']
  else if c == '\r' then ['\\', 'r']
  else if c == '\t' then ['\\', 't']
  else if n = 8 then ['\\', 'b']
  else if n = 12 then ['\\', 'f']
  else if n < 32 then '\\' :: 'u' :: Text.hexDigits 4 n
  else [c]

/-- A text between quotes. -/
def quoted (s : String) : String := String.ofList ('"' :: s.toList.flatMap escapedChar ++ ['"'])

/-- The start of a line at a level. -/
def newLine (level : Nat) : String := String.ofList ('\n' :: List.replicate (2 * level) ' ')

/-- Written items at a level between an opening and a closing bracket. -/
def bracketed (opening closing : String) (level : Nat) : List String → String
  | [] => opening ++ closing
  | items =>
    opening ++ newLine (level + 1) ++ String.intercalate ("," ++ newLine (level + 1)) items
      ++ newLine level ++ closing

mutual

/-- A report at a level. -/
def write (level : Nat) : Report → String
  | .null => "null"
  | .number n => toString n
  | .text s => quoted s
  | .list items => bracketed "[" "]" level (writeItems (level + 1) items)
  | .object members => bracketed "\x7b" "\x7d" level (writeMembers (level + 1) members)

/-- Items at a level. -/
def writeItems (level : Nat) : List Report → List String
  | [] => []
  | item :: rest => write level item :: writeItems level rest

/-- Members at a level. -/
def writeMembers (level : Nat) : List (String × Report) → List String
  | [] => []
  | (name, value) :: rest => (quoted name ++ ": " ++ write level value) :: writeMembers level rest

end

/-- A report as it is printed. -/
def print (j : Report) : String := j.write 0 ++ "\n"

end Report

end Mustache
