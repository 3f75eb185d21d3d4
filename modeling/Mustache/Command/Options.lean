import Mustache.Text.Digits

/-!
# Options of a command line

The words of a command line are options, by their names or an unambiguous beginning of a long name,
and plain words. Options of one letter can share a word, and a value can follow in the same word or
in the next one. Behind a lone double dash all words are plain.
-/

namespace Mustache.Command

/-- The options of a command: their names with what they mean, and which take a value. -/
structure OptionSet (α : Type) where
  names : List (String × α)
  takesValue : α → Bool

/-- What is wrong with a command line. -/
structure UsageError where
deriving DecidableEq, Repr

/-- What the word of an option says beyond its name. -/
structure Extra where
  /-- Whether it stands behind an equals sign. -/
  assigned : Bool
  text : List Char
deriving DecidableEq, Repr

/-- A word of a command line. -/
inductive Word (α : Type)
  /-- The double dash behind which all words are plain. -/
  | separator
  | plain (s : String)
  /-- An option, and what its word says beyond its name. -/
  | option (meaning : α) (extra : Option Extra)
  /-- A word that looks like an option and is none. -/
  | unknown (s : String)

/-- Cuts a word at its first equals sign. -/
def cutEquals : List Char → Option (List Char × List Char)
  | [] => none
  | '=' :: s => some ([], s)
  | c :: s => (cutEquals s).map fun (before, after) => (c :: before, after)

/-- Whether a word behind its dash is a number: digits, or digits with a point before the last
ones. -/
def isNumber (s : List Char) : Bool :=
  let rest := s.dropWhile Text.isDigit
  match rest with
  | [] => !s.isEmpty
  | '.' :: fraction => !fraction.isEmpty && fraction.all Text.isDigit
  | _ => false

/-- Options in order, each with its value if it takes one. -/
abbrev Chosen (α : Type) := List (α × Option String)

namespace OptionSet

variable {α : Type}

/-- What a name means. -/
def find? (o : OptionSet α) (name : List Char) : Option α := o.names.lookup (String.ofList name)

/-- The options that a word with two dashes can be short for. -/
def longMatches (o : OptionSet α) (s : List Char) : List (Word α) :=
  let (start, extra) : List Char × Option Extra := match cutEquals s with
    | none => (s, none)
    | some (start, extra) => (start, some ⟨true, extra⟩)
  (o.names.filter fun entry => start.isPrefixOf entry.1.toList).map fun entry =>
    .option entry.2 extra

/-- The options that a word with one dash can be: one with its first letter and the rest as extra,
or one that starts with the whole word. -/
def shortMatches (o : OptionSet α) (s : List Char) : List (Word α) :=
  o.names.filterMap fun (name, meaning) =>
    if name.toList = s.take 2 then some (.option meaning (some ⟨false, s.drop 2⟩))
    else if s.isPrefixOf name.toList then some (.option meaning none)
    else none

/-- What a word before a double dash is. -/
def wordOf (o : OptionSet α) (word : String) : Except UsageError (Word α) :=
  let s := word.toList
  match s with
  | '-' :: c :: rest =>
    match o.find? s with
    | some meaning => .ok (.option meaning none)
    | none =>
      match (cutEquals s).bind fun (name, extra) => (o.find? name).map fun m => (m, extra) with
      | some (meaning, extra) => .ok (.option meaning (some ⟨true, extra⟩))
      | none =>
        match if c = '-' then o.longMatches s else o.shortMatches s with
        | [found] => .ok found
        | _ :: _ :: _ => .error {}
        | [] => .ok (if isNumber (c :: rest) || s.contains ' ' then .plain word else .unknown word)
  | _ => .ok (.plain word)

/-- What the words of a command line are. -/
def wordsOf (o : OptionSet α) : List String → Except UsageError (List (Word α))
  | [] => .ok []
  | "--" :: rest => .ok (.separator :: rest.map .plain)
  | word :: rest =>
    match o.wordOf word with
    | .error e => .error e
    | .ok first => (wordsOf o rest).map (first :: ·)

/-- What reading an option takes from a command line. -/
structure Taken (α : Type) where
  chosen : Chosen α
  /-- Whether a part of the word belongs to nothing. -/
  leftover : Bool
  /-- The words behind it. -/
  rest : List (Word α)

/-- Reads an option whose value may be the next word. -/
def withNext (o : OptionSet α) (meaning : α) (rest : List (Word α)) : Except UsageError (Taken α) :=
  if !o.takesValue meaning then .ok ⟨[(meaning, none)], false, rest⟩
  else
    match rest with
    | .plain value :: rest => .ok ⟨[(meaning, some value)], false, rest⟩
    | _ => .error {}

/-- Reads an option to which an equals sign gives a value. -/
def assigned (o : OptionSet α) (meaning : α) (value : List Char) (rest : List (Word α)) :
    Except UsageError (Taken α) :=
  if o.takesValue meaning then .ok ⟨[(meaning, some (String.ofList value))], false, rest⟩
  else .error {}

/-- Reads an option of one letter and what its word says behind the letter: a value, or more options
of one letter. Where that is no option, the end of the word belongs to nothing. -/
def cluster (o : OptionSet α) (rest : List (Word α)) :
    (text : List Char) → (meaning : α) → Except UsageError (Taken α)
  | [], meaning => o.withNext meaning rest
  | c :: more, meaning =>
    if o.takesValue meaning then
      .ok ⟨[(meaning, some (String.ofList (c :: more)))], false, rest⟩
    else if c = '-' then .error {}
    else
      match o.find? ['-', c] with
      | none => .ok ⟨[(meaning, none)], true, rest⟩
      | some next =>
        let others := match more with
          | '=' :: value => o.assigned next value rest
          | more => cluster o rest more next
        others.map fun taken => { taken with chosen := (meaning, none) :: taken.chosen }

/-- Reads an option. -/
def read (o : OptionSet α) (meaning : α) (extra : Option Extra) (rest : List (Word α)) :
    Except UsageError (Taken α) :=
  match extra with
  | none => o.withNext meaning rest
  | some ⟨true, value⟩ => o.assigned meaning value rest
  | some ⟨false, text⟩ => o.cluster rest text meaning

end OptionSet

end Mustache.Command
