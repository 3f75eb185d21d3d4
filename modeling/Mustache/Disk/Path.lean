/-!
# Paths

A path is a list of names, from the root directory if it is absolute. Reading drops empty names and
single dots; two dots stay, because only the disk knows what they lead to.
-/

namespace Mustache

/-- A path. -/
structure Path where
  /-- The number of leading slashes: none for a relative path, and two are kept apart from one. -/
  slashes : Nat
  names : List String
deriving DecidableEq, Repr, Inhabited

namespace Path

/-- Splits at every slash. -/
def splitSlash : List Char → List (List Char)
  | [] => [[]]
  | '/' :: s => [] :: splitSlash s
  | c :: s =>
    match splitSlash s with
    | [] => [[c]]
    | first :: rest => (c :: first) :: rest

/-- The names in a text between slashes that say something. -/
def namesOf (s : List Char) : List String :=
  (splitSlash s).filterMap fun name =>
    if name = [] ∨ name = ['.'] then none else some (String.ofList name)

/-- Reads a path. -/
def ofString (s : String) : Path :=
  let leading := (s.toList.takeWhile (· == '/')).length
  ⟨if leading = 2 then 2 else min leading 1, namesOf s.toList⟩

/-- Whether a path starts at the root directory. -/
def isAbsolute (p : Path) : Bool := p.slashes != 0

/-- A path as text; the empty relative path is a dot. -/
def text (p : Path) : String :=
  let joined := String.intercalate "/" p.names
  if p.slashes = 0 && p.names.isEmpty then "."
  else String.ofList (List.replicate p.slashes '/') ++ joined

/-- Whether a name holds the null character, with which nothing can be opened. -/
def holdsNull (p : Path) : Bool := p.names.any fun name => name.toList.contains '\x00'

/-- A path from another one on; an absolute path stands for itself. -/
def join (base p : Path) : Path :=
  if p.isAbsolute then p else { base with names := base.names ++ p.names }

/-- The path with something added to its last name. There is none without a last name, nor if the
addition has names of its own. -/
def withSuffix? (p : Path) (suffix : String) : Option Path :=
  match p.names.getLast? with
  | none => none
  | some last =>
    let name := last ++ suffix
    if name.toList.getLast? = some '/' || (namesOf name.toList).length ≠ 1 then none
    else some { p with names := p.names.dropLast ++ [name] }

end Path

end Mustache
