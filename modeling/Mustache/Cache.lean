import Mustache.Notice
import Mustache.Fault
import Mustache.Template.Basic

/-!
# The cache of templates

Templates are kept by their text and by their name, in two spaces of keys that know nothing of each
other. A key that is not there yet is compiled: while that lasts the key is listed as being compiled
and its lock is held, and both end however the compilation ends. Loading the text of a name may use
the cache again; a key that is asked for while it is being compiled is a cycle. Such calls go at
most as deep as there are names whose loading makes calls, and that number ends the recursion.
-/

namespace Mustache

/-- A key in one of the two spaces. -/
structure Slot where
  space : Keyspace
  key : String
deriving DecidableEq, Repr

namespace Slot

/-- A slot as it is named in a chain of keys. -/
def label (s : Slot) : String :=
  match s.space with
  | .inline => Template.textKey s.key
  | .named => s.key

end Slot

/-- A template in the cache; the serial number tells compilations of equal texts apart. -/
structure Kept where
  serial : Nat
  template : Template
deriving Repr, Inhabited

/-- A cache. -/
structure Cache where
  entries : List (Slot × Kept) := []
  /-- The slots being compiled, the outermost first. -/
  compiling : List Slot := []
  /-- The slots whose lock exists. -/
  locks : List Slot := []
  /-- The serial number of the next template. -/
  next : Nat := 0
  /-- What there is to tell, oldest first. -/
  notices : List Notice := []

/-- A text with the path it was read from, if it was read from a path. -/
structure Loaded where
  text : String
  path : Option String
deriving DecidableEq, Repr

/-- A call that loading a text makes on the cache. -/
inductive CacheCall
  | named (key : String)
  | inline (text : String)
  | clear
  /-- Asks for a name and goes on if a user could mend what went wrong. -/
  | tryNamed (key : String)
deriving DecidableEq, Repr

/-- Where the texts of names come from, and the calls that loading them makes first. -/
structure Loader where
  calls : List (String × List CacheCall)
  load : String → Except Fault Loaded

/-- A use of the cache: a result or a fault, and the cache after it in either case. -/
abbrev Caching (α : Type) := ExceptT Fault (StateM Cache) α

namespace Cache

/-- The template of a slot. -/
def find? (c : Cache) (slot : Slot) : Option Kept := c.entries.lookup slot

/-- Whether a slot has a template. -/
def isCached (c : Cache) (slot : Slot) : Bool := (c.find? slot).isSome

/-- The number of templates. -/
def size (c : Cache) : Nat := c.entries.length

/-- Adds something to tell. -/
def tell (c : Cache) (notice : Notice) : Cache := { c with notices := c.notices ++ [notice] }

/-- Marks a slot as being compiled and creates its lock. -/
def enter (c : Cache) (slot : Slot) : Cache :=
  { c with compiling := c.compiling ++ [slot], locks := slot :: c.locks }

/-- Ends the compilation of a slot. -/
def leave (c : Cache) (slot : Slot) : Cache :=
  { c with compiling := c.compiling.erase slot, locks := c.locks.erase slot }

/-- Keeps a new template for a slot, unless there is one by now. -/
def install (c : Cache) (slot : Slot) (t : Template) : Kept × Cache :=
  let kept := (c.find? slot).getD ⟨c.next, t⟩
  let entries := if c.isCached slot then c.entries else (slot, kept) :: c.entries
  (kept, { c with entries, next := c.next + 1 })

/-- Forgets all templates. -/
def clear (c : Cache) : Cache := { c with entries := [] }.tell .cleared

end Cache

namespace Caching

/-- Adds something to tell. -/
def tell (notice : Notice) : Caching Unit := modify (·.tell notice)

/-- Compiles a text under a name. -/
def compile (text name : String) : Caching Template := do
  match Token.scan text.toList with
  | .error e => throw (.malformed (e.named name))
  | .ok tokens =>
    tell (.tokenized tokens.length (Line.lastNumber (Line.split text.toList)))
    match Template.compile text name with
    | .error e => throw (.malformed e)
    | .ok t =>
      tell (.parsed t.nodes.length)
      return t

/-- Loads the text of a name, after the calls that this makes, each run by `call`. -/
def load (loader : Loader) (call : CacheCall → Caching Unit) (key : String) : Caching String := do
  tell (.asked key)
  ((loader.calls.lookup key).getD []).forM call
  match loader.load key with
  | .error fault => throw fault
  | .ok loaded =>
    match loaded.path with
    | none => return loaded.text
    | some path =>
      tell (.loaded key path)
      return loaded.text

/-- Makes the template of a slot. -/
def build (loader : Loader) (call : CacheCall → Caching Unit) (slot : Slot) : Caching Template := do
  match slot.space with
  | .inline => compile slot.key ""
  | .named =>
    let text ← load loader call slot.key
    compile text slot.key

/-- Makes the template of a slot while the slot is marked, and keeps it. -/
def buildMarked (loader : Loader) (call : CacheCall → Caching Unit) (slot : Slot) : Caching Kept :=
  fun c =>
    match build loader call slot (c.enter slot) with
    | (.error fault, c) => (.error fault, c.leave slot)
    | (.ok t, c) =>
      let (kept, c) := (c.leave slot).install slot t
      (.ok kept, c.tell (.compiled slot.space kept.template.key kept.template.nodes.length))

/-- The template of a slot, compiled if there is none; at most `depth` compilations inside each
other. -/
def get (loader : Loader) : Nat → Slot → Caching Kept
  | depth, slot => fun c =>
    match c.find? slot with
    | some kept => (.ok kept, c)
    | none =>
      if slot ∈ c.compiling then
        (.error (.cycle (c.compiling.map Slot.label ++ [slot.label])), c)
      else
        match depth with
        | 0 => (.error .exhausted, c)
        | depth + 1 =>
          let call : CacheCall → Caching Unit
            | .named key => do let _ ← get loader depth ⟨.named, key⟩
            | .inline text => do let _ ← get loader depth ⟨.inline, text⟩
            | .clear => modify Cache.clear
            | .tryNamed key => fun c =>
              match get loader depth ⟨.named, key⟩ c with
              | (.ok _, c) => (.ok (), c)
              | (.error fault, c) => if fault.isUserFault then (.ok (), c) else (.error fault, c)
          buildMarked loader call slot c

end Caching

namespace Cache

/-- The template of a slot, and the cache after it. -/
def get (c : Cache) (loader : Loader) (slot : Slot) : Except Fault Kept × Cache :=
  Caching.get loader (loader.calls.length + 1) slot c

/-- What there is to tell, and the cache without it. -/
def takeNotices (c : Cache) : List Notice × Cache := (c.notices, { c with notices := [] })

end Cache

end Mustache
