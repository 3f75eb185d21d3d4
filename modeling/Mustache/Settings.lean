import Mustache.Disk.Tree
import Mustache.Fault
import Mustache.Source.Folder
import Mustache.Text.Blank
import Mustache.Value.Member
import Mustache.Value.Text

/-!
# Settings

Where templates are found and how they are read: defaults, then the settings file of a directory,
then the environment, each overriding what comes before it.
-/

namespace Mustache

/-- The settings of an engine over a folder. -/
structure Settings where
  root : Path
  suffixes : List String
  encoding : String
  /-- Whether including a missing template is a fault. -/
  strict : Bool
deriving DecidableEq, Repr

/-- The variables of the environment. -/
abbrev Environment := List (String × String)

namespace Settings

/-- The name of a settings file. -/
def fileName : String := "stache.yaml"

/-- The settings without a settings file. -/
def ofRoot (root : Path) : Settings := ⟨root, [".mustache"], "utf-8", true⟩

/-- The folder of templates that settings describe. -/
def folder (s : Settings) : Folder := ⟨s.root, s.suffixes, s.encoding⟩

/-- A name with a point in front of it. -/
def withPoint (name : String) : String :=
  if name.toList.head? = some '.' then name else "." ++ name

/-- Suffixes as they are written: trimmed, without empty ones, each with a point in front. -/
def cleanSuffixes (names : List String) : List String :=
  ((names.map Text.trimmed).filter (· ≠ "")).map withPoint

/-- Splits a text at every comma. -/
def splitCommas : List Char → List (List Char)
  | [] => [[]]
  | ',' :: s => [] :: splitCommas s
  | c :: s =>
    match splitCommas s with
    | [] => [[c]]
    | first :: rest => (c :: first) :: rest

/-- Suffixes between commas. -/
def suffixesOfText (s : String) : List String :=
  cleanSuffixes ((splitCommas s.toList).map String.ofList)

/-- Suffixes from a setting: a list, or a text with commas. -/
def suffixesOf (path : Option String) (v : Value) : Except Fault (List String) :=
  match v with
  | .text s => .ok (suffixesOfText s)
  | .list items | .tuple items =>
    match items.mapM Value.text? with
    | .error failure => .error (.failure failure)
    | .ok names => .ok (cleanSuffixes names)
  | _ => .error (.settings path .suffixesNotList)

/-- The keys of a settings file. -/
def knownKeys : List String := ["root", "suffixes", "encoding", "strict_partials"]

/-- The text of a key. -/
def keyText? : Value → Option String
  | .text s => some s
  | _ => none

/-- Refuses entries with unknown keys. -/
def checkKeys (path : Option String) (entries : List (Value × Value)) : Except Fault Unit :=
  let isKnown (v : Value) : Bool := ((keyText? v).map knownKeys.contains).getD false
  let others := (entries.map Prod.fst).filter fun key => !isKnown key
  if others.isEmpty then .ok ()
  else
    match others.mapM keyText? with
    | none => .error .unnamedKeys
    | some names => .error (.settings path (.unknownKeys
        (names.mergeSort fun a b => decide (a ≤ b))))

/-- The text of a setting. -/
def textOf (v : Value) : Except Fault String := v.text?.mapError Fault.failure

/-- The setting of an entry, if it is there. -/
def setting {α : Type} (entries : List (Value × Value)) (key : String) (otherwise : α)
    (read : Value → Except Fault α) : Except Fault α :=
  match Value.lookup? key entries with
  | none => .ok otherwise
  | some v => read v

/-- Settings from the entries of a settings file, in a directory that relative roots start from. -/
def ofEntries (base : Path) (path : Option String) (entries : List (Value × Value)) :
    Except Fault Settings := do
  checkKeys path entries
  let usual := ofRoot base
  let root ← setting entries "root" usual.root fun v => do
    let s ← textOf v
    return base.join (.ofString s)
  let suffixes ← setting entries "suffixes" usual.suffixes (suffixesOf path)
  let encoding ← setting entries "encoding" usual.encoding textOf
  let strict ← setting entries "strict_partials" usual.strict fun
    | .bool b => .ok b
    | _ => .error (.settings path .strictNotBoolean)
  return ⟨root, suffixes, encoding, strict⟩

/-- Whether the value of a settings file says nothing, as an empty file does. -/
def saysNothing : Value → Bool
  | .null | .bool false | .text "" | .bytes [] | .buffer _ [] | .list [] | .tuple [] | .set []
  | .frozenSet [] | .map [] | .view [] _ => true
  | .int n => n == 0
  | .float x => x.magnitude == 0
  | .range start stop step => Value.rangeCount start stop step == 0
  | _ => false

/-- The entries of a settings file with a text. -/
def entriesOf (reader : DocumentReader) (path : String) (text : List Char) :
    Except Fault (List (Value × Value)) :=
  match reader text with
  | .error (.unreadable explanation) => .error (.settings (some path) (.unreadable explanation))
  | .error (.scalar problem) => .error (.scalar problem)
  | .ok v =>
    if saysNothing v then .ok []
    else
      match v with
      | .map entries => .ok entries
      | _ => .error (.settings (some path) .notMapping)

/-- Settings from the settings file of a directory, if there is one. -/
def ofDirectory (reader : DocumentReader) (d : Disk) (root : Path) : Except Fault Settings :=
  let path := root.join (.ofString fileName)
  match d.isFile path with
  | .error fault => .error (.disk fault)
  | .ok false => .ok (ofRoot root)
  | .ok true =>
    match d.read path with
    | .error fault => .error (.disk fault)
    | .ok bytes =>
      match Text.decode .utf8 bytes with
      | .error problem => .error (.encoding problem)
      | .ok text => do
        let entries ← entriesOf reader path.text (Text.unifyLines text)
        ofEntries root (some path.text) entries

/-- The words of the environment that switch strictness off. -/
def offWords : List String := ["0", "false", "no", "off", ""]

/-- Whether a word of the environment switches strictness on. -/
def isOn (word : String) : Bool :=
  !offWords.contains (String.ofList ((Text.trim word.toList).map Char.toLower))

/-- The settings overridden by the environment. An empty root says nothing. -/
def overridden (s : Settings) (env : Environment) : Settings where
  root := match env.lookup "STACHE_ROOT" with
    | none | some "" => s.root
    | some root => .ofString root
  suffixes := ((env.lookup "STACHE_SUFFIXES").map suffixesOfText).getD s.suffixes
  encoding := s.encoding
  strict := ((env.lookup "STACHE_STRICT_PARTIALS").map isOn).getD s.strict

/-- The settings for a directory. -/
def load (reader : DocumentReader) (d : Disk) (root : Path) (env : Environment) :
    Except Fault Settings :=
  (ofDirectory reader d root).map (·.overridden env)

end Settings

end Mustache
