import Mustache.Cache
import Mustache.Disk.Tree
import Mustache.Text.Blank
import Mustache.Text.Encoding

/-!
# Folders of templates

A key is a path from the root of the folder. If there is no file at that path, the suffixes are
tried behind its last name, in order. Listing walks the directories in order of their names, the
files of a directory before those of its subdirectories, and passes over directories named `.git`
and over those whose paths are too long to be opened.
-/

namespace Mustache

/-- A folder of templates. -/
structure Folder where
  root : Path
  suffixes : List String
  encoding : String
deriving DecidableEq, Repr

namespace Folder

/-- The paths that a key can stand for, in the order in which they are tried. -/
def candidates (f : Folder) (key : String) : Except Fault (List Path) :=
  let base := f.root.join (.ofString key)
  let withSuffixes := f.suffixes.map base.withSuffix?
  if withSuffixes.any Option.isNone then .error .invalidPath
  else .ok (base :: withSuffixes.filterMap id)

/-- The first of some paths at which there is a file. -/
def firstFile (d : Disk) : List Path → Except Fault (Option Path)
  | [] => .ok none
  | p :: rest =>
    match d.isFile p with
    | .error fault => .error (.disk fault)
    | .ok true => .ok (some p)
    | .ok false => firstFile d rest

/-- The path of the file that a key stands for. -/
def find (f : Folder) (d : Disk) (key : String) : Except Fault (Option Path) :=
  match f.candidates key with
  | .error fault => .error fault
  | .ok paths => firstFile d paths

/-- The text of the file that a key stands for, all its line endings as line feeds. -/
def load (f : Folder) (d : Disk) (key : String) : Except Fault Loaded :=
  match f.find d key with
  | .error fault => .error fault
  | .ok none => .error (.unavailable key ("no such file under " ++ f.root.text))
  | .ok (some p) =>
    match Encoding.ofName f.encoding with
    | .error problem => .error (.encoding problem)
    | .ok encoding =>
      match d.read p with
      | .error fault => .error (.unavailable key fault.message)
      | .ok bytes =>
        match Text.decode encoding bytes with
        | .error (.fault fault) => .error (.unavailable key fault.message)
        | .error problem => .error (.encoding problem)
        | .ok s => .ok ⟨String.ofList (Text.unifyLines s), some p.text⟩

/-- The name of the directory that listing passes over. -/
def skipped : String := ".git"

/-- Whether a file name ends in one of some suffixes. -/
def hasSuffix (suffixes : List String) (name : String) : Bool :=
  suffixes.any fun suffix => suffix.toList.isSuffixOf name.toList

/-- Names in order of their code points. -/
def inOrder {α : Type} (named : List (String × α)) : List (String × α) :=
  named.mergeSort fun a b => decide (a.1 ≤ b.1)

mutual

/-- The files of an entry whose names have one of some suffixes, as names from the top, in the order
of listing. -/
def filesOf (suffixes : List String) (above : List String) : Entry → List (List String)
  | .file _ => []
  | .folder entries =>
    let files := inOrder
      (entries.filter fun entry => !entry.2.isFolder && hasSuffix suffixes entry.1)
    let below := inOrder (foldersOf suffixes above entries)
    files.map (fun file => above ++ [file.1]) ++ below.flatMap Prod.snd

/-- The files of each directory among some entries. -/
def foldersOf (suffixes : List String) (above : List String) :
    List (String × Entry) → List (String × List (List String))
  | [] => []
  | (name, entry) :: rest =>
    if entry.isFolder && name ≠ skipped then
      (name, filesOf suffixes (above ++ [name]) entry) :: foldersOf suffixes above rest
    else foldersOf suffixes above rest

end

/-- The directory that is listed. Two dots in the root take away the name before them, whether there
is something of that name or not. -/
def top (f : Folder) (d : Disk) : Path := ⟨1, f.root.namesFrom d.current⟩

/-- Whether the path of the directory of a file below another one is short enough to be opened. -/
def isInReach (top : Path) (names : List String) : Bool :=
  decide ((Path.text ⟨1, top.names ++ names.dropLast⟩).utf8ByteSize ≤ Disk.longestPath)

/-- The patterns that are not blank, trimmed. -/
def filledPatterns (patterns : Option (List String)) : List String :=
  ((patterns.getD []).map Text.trimmed).filter (· ≠ "")

/-- What picks a path, if anything does: patterns that are all blank are none. -/
def picker? (reader : PatternReader) (patterns : Option (List String)) :
    Except PatternProblem (Option (String → Bool)) :=
  match filledPatterns patterns with
  | [] => .ok none
  | lines => (reader lines).map some

/-- The keys of all templates that some patterns pick; no patterns pick all. -/
def list (f : Folder) (reader : PatternReader) (d : Disk) (patterns : Option (List String)) :
    Except Fault (List String) :=
  match picker? reader patterns with
  | .error problem => .error (.badPattern problem)
  | .ok pick? =>
    if f.root.holdsNull then .error .invalidPath
    else
      let files := match d.locate (f.top d) with
        | .error _ => []
        | .ok place => (filesOf f.suffixes [] place.entry).filter (isInReach (f.top d))
      let keys := files.map (String.intercalate "/")
      .ok (match pick? with
        | none => keys
        | some pick => keys.filter pick)

/-- A list of texts as it is shown to a developer. -/
def inspectedTexts (texts : List String) : String :=
  match texts with
  | [only] => "(" ++ Text.quoted only ++ ",)"
  | texts => "(" ++ String.intercalate ", " (texts.map Text.quoted) ++ ")"

/-- A folder as it is shown to a developer. -/
def inspected (f : Folder) : String :=
  "FileSystemSource(" ++ Text.quoted f.root.text ++ ", suffixes=" ++
    inspectedTexts f.suffixes ++ ")"

end Folder

end Mustache
