import Mustache.Source.Folder

/-!
# Sources of texts

Texts of names come from memory or from a folder of files.
-/

namespace Mustache

/-- Where the texts of names come from. -/
inductive Source
  | memory (texts : List (String × String))
  | folder (f : Folder)

namespace Source

/-- Puts a text under a name. -/
def put (name text : String) : List (String × String) → List (String × String)
  | [] => [(name, text)]
  | (key, old) :: rest =>
    if key = name then (name, text) :: rest else (key, old) :: put name text rest

/-- The source with a text under a name; a folder stays as it is. -/
def set (name text : String) : Source → Source
  | .memory texts => .memory (put name text texts)
  | .folder f => .folder f

/-- The text of a name. -/
def load (d : Disk) (key : String) : Source → Except Fault Loaded
  | .memory texts =>
    match texts.lookup key with
    | none => .error (.unavailable key "")
    | some text => .ok ⟨text, none⟩
  | .folder f => f.load d key

/-- The loader of a source, whose loading makes no calls. -/
def loader (s : Source) (d : Disk) : Loader := ⟨[], fun key => s.load d key⟩

end Source

mutual

/-- The number of bytes in an entry. -/
def Entry.volume : Entry → Nat
  | .file bytes => bytes.length
  | .folder entries => Entry.volumes entries

/-- The number of bytes in some entries. -/
def Entry.volumes : List (String × Entry) → Nat
  | [] => 0
  | (_, entry) :: rest => entry.volume + Entry.volumes rest

end

/-- A bound for the number of tags in the texts of a source. -/
def Source.volume (d : Disk) : Source → Nat
  | .memory texts => texts.foldr (fun entry total => entry.2.length + total) 0
  | .folder _ => d.root.volume

end Mustache
