import Mustache.Command.Options

/-!
# Arguments

A command line names one of three commands. Options before the name of the command belong to the
program, those behind it to the command. Asking for help or for the version ends the reading where
it stands; a mistake before that ends it with the status of misuse.
-/

namespace Mustache.Command

/-- The options of the program. -/
inductive ProgramOption
  | help
  | version
  | verbose
deriving DecidableEq, Repr

/-- The options of the commands. -/
inductive CommandOption
  | help
  | data
  | inline
  | output
  | root
deriving DecidableEq, Repr

/-- The options of the program by their names. -/
def programOptions : OptionSet ProgramOption where
  names := [("-h", .help), ("--help", .help), ("-v", .version), ("--version", .version),
    ("--verbose", .verbose)]
  takesValue _ := false

/-- Which options of commands take a value. -/
def CommandOption.takesValue : CommandOption → Bool
  | .help | .inline => false
  | .data | .output | .root => true

/-- The options of the command that renders. -/
def renderOptions : OptionSet CommandOption where
  names := [("-h", .help), ("--help", .help), ("--data", .data), ("--inline", .inline),
    ("--output", .output), ("-o", .output), ("--root", .root)]
  takesValue := CommandOption.takesValue

/-- The options of the commands that go through all templates. -/
def folderOptions : OptionSet CommandOption where
  names := [("-h", .help), ("--help", .help), ("--root", .root)]
  takesValue := CommandOption.takesValue

/-- What a command does. -/
inductive Task
  /-- Renders a template, given by its key or by its text. -/
  | render (template : String) (inline : Bool) (data output : Option String)
  /-- Compiles all templates that patterns pick. -/
  | check (patterns : List String)
  /-- Lists all templates that patterns pick. -/
  | list (patterns : List String)
deriving DecidableEq, Repr

/-- A command line that has been read. -/
structure Invocation where
  verbose : Bool
  root : Option String
  task : Task
deriving DecidableEq, Repr

/-- What comes of a command line: something to do, or an end with a status and a text. -/
inductive Reading
  | run (invocation : Invocation)
  | stop (status : Nat) (text : String)
deriving DecidableEq, Repr

/-- The status of misuse. -/
def misuse : Reading := .stop 2 ""

/-- What `--version` prints. -/
def versionText : String := "stache 0.1.0\n"

/-- The plain words that a command takes: a single one or any number. -/
inductive Arity
  | one
  | many
deriving DecidableEq, Repr

/-- The words of a command, so far as they have been read. -/
structure Collected where
  /-- The options, last first. -/
  chosen : Chosen CommandOption := []
  /-- The plain words that were taken, if it was their turn yet. -/
  values : Option (List String) := none
  /-- Whether some word belongs to nothing. -/
  leftover : Bool := false

/-- Whether the reading of a command goes on. -/
inductive Collecting
  | done (c : Collected)
  | help
  | wrong

/-- The plain words among some. -/
def plainWords (words : List (Word CommandOption)) : List String :=
  words.filterMap fun
    | .plain s => some s
    | _ => none

/-- Whether a word is an option or looks like one. -/
def isOptionWord : Word CommandOption → Bool
  | .option .. | .unknown _ => true
  | _ => false

/-- The plain words at the front that fill a place, and the words behind them. -/
def takePlain (arity : Arity) (words : List (Word CommandOption)) :
    Option (List String × List (Word CommandOption)) :=
  match arity with
  | .many =>
    let run := words.takeWhile fun w => !isOptionWord w
    some (plainWords run, words.drop run.length)
  | .one =>
    match words with
    | .plain s :: .separator :: rest | .separator :: .plain s :: rest | .plain s :: rest =>
      some ([s], rest)
    | _ => none

/-- Reads the words of a command. Plain words are taken in one go; those that come later belong to
nothing. -/
def collect (o : OptionSet CommandOption) (arity : Arity) :
    Nat → Collected → List (Word CommandOption) → Collecting
  | 0, _, _ => .wrong
  | fuel + 1, c, words =>
    match words with
    | [] =>
      match c.values, arity with
      | none, .one => .wrong
      | none, .many => .done { c with values := some [] }
      | some _, _ => .done c
    | .unknown _ :: rest => collect o arity fuel { c with leftover := true } rest
    | .option meaning extra :: rest =>
      match o.read meaning extra rest with
      | .error _ => .wrong
      | .ok taken =>
        if taken.chosen.any fun entry => entry.1 = .help then .help
        else
          let chosen := taken.chosen.reverse ++ c.chosen
          collect o arity fuel { c with chosen, leftover := c.leftover || taken.leftover }
            taken.rest
    | words@(_ :: rest) =>
      match c.values, takePlain arity words with
      | none, some (values, rest) => collect o arity fuel { c with values := some values } rest
      | _, _ => collect o arity fuel { c with leftover := true } rest

/-- The value of an option, the last one if it was given more than once. -/
def Collected.value? (c : Collected) (o : CommandOption) : Option String :=
  (c.chosen.lookup o).join

/-- A command: its options, the plain words that it takes, and what it does with them. -/
structure CommandForm where
  options : OptionSet CommandOption
  arity : Arity
  task : Collected → Task

/-- The commands by their names. -/
def forms : List (String × CommandForm) :=
  [("render", ⟨renderOptions, .one, fun c =>
      .render ((c.values.getD []).headD "") (c.chosen.lookup .inline).isSome (c.value? .data)
        (c.value? .output)⟩),
   ("check", ⟨folderOptions, .many, fun c => .check (c.values.getD [])⟩),
   ("list", ⟨folderOptions, .many, fun c => .list (c.values.getD [])⟩)]

/-- Reads the words behind the name of a command; `leftover` tells of words before it that belong to
nothing. -/
def CommandForm.read (form : CommandForm) (verbose leftover : Bool) (args : List String) :
    Reading :=
  match form.options.wordsOf args with
  | .error _ => misuse
  | .ok words =>
    match collect form.options form.arity (words.length + 1) {} words with
    | .help => .stop 0 ""
    | .wrong => misuse
    | .done c =>
      if leftover || c.leftover then misuse
      else .run ⟨verbose, c.value? .root, form.task c⟩

/-- Reads the program's options and then the command. -/
def readProgram (verbose leftover : Bool) : List (Word ProgramOption × String) → Reading
  | [] => misuse
  | (.separator, _) :: _ => misuse
  | (.unknown _, _) :: rest => readProgram verbose true rest
  | (.plain name, _) :: rest =>
    match forms.lookup name with
    | none => misuse
    | some form => form.read verbose leftover (rest.map Prod.snd)
  | (.option meaning extra, _) :: rest =>
    match programOptions.read meaning extra [] with
    | .error _ => misuse
    | .ok taken =>
      match taken.chosen.map Prod.fst with
      | .help :: _ => .stop 0 ""
      | .version :: _ => .stop 0 versionText
      | _ => readProgram true (leftover || taken.leftover) rest

/-- Reads a command line. -/
def Reading.ofArguments (args : List String) : Reading :=
  match programOptions.wordsOf args with
  | .error _ => misuse
  | .ok words => readProgram false false (words.zip args)

end Mustache.Command
