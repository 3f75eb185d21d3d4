import Mustache.Disk.Fault
import Mustache.Disk.Path

/-!
# The disk

A tree of directories and files with a current directory. A path is followed name by name: every
name but the last has to lead to a directory, and two dots lead to the directory above. All that is
on the disk may be entered and read, and nothing on it stands for something else.
-/

namespace Mustache

/-- What a name on the disk stands for. -/
inductive Entry
  | file (bytes : List UInt8)
  | folder (entries : List (String × Entry))
deriving Inhabited

/-- A disk: the entry of the root directory and the names that lead to the current directory. -/
structure Disk where
  root : Entry
  current : List String

/-- The names from the root that a path stands for if all its names but the last are directories. -/
def Path.namesFrom (current : List String) (p : Path) : List String :=
  let start := if p.isAbsolute then [] else current
  (start ++ p.names).foldl
    (fun names name => if name = ".." then names.dropLast else names ++ [name]) []

/-- A place on the disk: the names that lead to it from the root, and what is there. -/
structure Place where
  names : List String
  entry : Entry

namespace Entry

/-- The entries of a directory. -/
def entries : Entry → List (String × Entry)
  | .file _ => []
  | .folder entries => entries

/-- Whether an entry is a directory. -/
def isFolder : Entry → Bool
  | .file _ => false
  | .folder _ => true

/-- Puts an entry under a name. -/
def put (name : String) (entry : Entry) : List (String × Entry) → List (String × Entry)
  | [] => [(name, entry)]
  | (key, old) :: rest =>
    if key = name then (name, entry) :: rest else (key, old) :: put name entry rest

/-- Puts an entry at the end of some names, making the directories on the way. -/
def putAt (entry : Entry) : List String → Entry → Entry
  | [], _ => entry
  | name :: rest, here =>
    let below := (here.entries.lookup name).getD (.folder [])
    .folder (put name (putAt entry rest below) here.entries)

end Entry

namespace Disk

/-- The longest name, in bytes. -/
def longestName : Nat := 255

/-- The longest path, in bytes. -/
def longestPath : Nat := 4095

/-- The number of bytes of a name. Single dots that stand behind a slash in it do not belong to
it. -/
def nameSize (name : String) : Nat :=
  (String.ofList (name.toList.takeWhile (· ≠ '/'))).utf8ByteSize

/-- Follows names from a place. The second list holds the places above, nearest first. -/
def follow : List String → Place → List Place → Except DiskProblem Place
  | [], place, _ => .ok place
  | name :: rest, place, above =>
    match place.entry with
    | .file _ => .error .notDirectory
    | .folder entries =>
      if name = ".." then
        match above with
        | [] => follow rest place []
        | parent :: higher => follow rest parent higher
      else if longestName < nameSize name then .error .nameTooLong
      else
        match entries.lookup name with
        | none => .error .notFound
        | some entry => follow rest ⟨place.names ++ [name], entry⟩ (place :: above)

/-- The place a path leads to. -/
def locate (d : Disk) (p : Path) : Except DiskProblem Place :=
  if p.holdsNull then .error .notFound
  else if longestPath < p.text.utf8ByteSize then .error .nameTooLong
  else
    let start := if p.isAbsolute then [] else d.current
    follow (start ++ p.names) ⟨[], d.root⟩ []

/-- The bytes of the file at a path. -/
def read (d : Disk) (p : Path) : Except DiskFault (List UInt8) :=
  match d.locate p with
  | .error problem => .error ⟨problem, p.text⟩
  | .ok ⟨_, .file bytes⟩ => .ok bytes
  | .ok ⟨_, .folder _⟩ => .error ⟨.isDirectory, p.text⟩

/-- Whether there is a file at a path. Names that are too long are an error of their own. -/
def isFile (d : Disk) (p : Path) : Except DiskFault Bool :=
  match d.locate p with
  | .ok ⟨_, .file _⟩ => .ok true
  | .ok ⟨_, .folder _⟩ => .ok false
  | .error .nameTooLong => .error ⟨.nameTooLong, p.text⟩
  | .error _ => .ok false

/-- The disk with an entry at some names from the root. -/
def put (d : Disk) (names : List String) (entry : Entry) : Disk :=
  { d with root := Entry.putAt entry names d.root }

/-- The disk with a file at some names from the root. -/
def putFile (d : Disk) (names : List String) (bytes : List UInt8) : Disk :=
  d.put names (.file bytes)

/-- The disk with a directory at some names from the root; one that is there is kept. -/
def putFolder (d : Disk) (names : List String) : Disk :=
  match follow names ⟨[], d.root⟩ [] with
  | .ok ⟨_, .folder _⟩ => d
  | _ => d.put names (.folder [])

/-- The place where writing to a path would put a file: its directory exists, and there is no
directory under its name. -/
def writable (d : Disk) (p : Path) : Except DiskFault (List String) :=
  match d.locate p with
  | .ok ⟨names, .file _⟩ => .ok names
  | .ok ⟨_, .folder _⟩ => .error ⟨.isDirectory, p.text⟩
  | .error .notFound =>
    match p.names.getLast?, d.locate { p with names := p.names.dropLast } with
    | some name, .ok ⟨names, .folder _⟩ => .ok (names ++ [name])
    | _, .ok ⟨_, .file _⟩ => .error ⟨.notDirectory, p.text⟩
    | _, .error problem => .error ⟨problem, p.text⟩
    | none, .ok ⟨_, .folder _⟩ => .error ⟨.isDirectory, p.text⟩
  | .error problem => .error ⟨problem, p.text⟩

end Disk

end Mustache
