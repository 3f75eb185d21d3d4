import Mustache.Command.Arguments
import Mustache.ContextData
import Mustache.Engine
import Mustache.Report
import Mustache.Settings

/-!
# Running a command

A command reads a disk, the environment and the standard input with the libraries that it has, and
it prints into the standard output, which need not be able to encode everything. Its outcome says
what is printed, which file is written and how it ends. Faults that a user can mend are told in one
line with the status of failure; all others end the command as they are.
-/

namespace Mustache.Command

/-- What a command can read, what it reads it with, and where it prints. -/
structure Surroundings where
  libraries : Libraries
  disk : Disk
  environment : Environment
  stdin : String
  /-- What the standard output objects to a text that it cannot encode. -/
  objection : String → Option String := fun _ => none

/-- The standard output. -/
def Surroundings.stdout (s : Surroundings) : Sink :=
  { capacity := some (.without fun text => (s.objection text).map (Failure.mk .unencodable)) }

/-- How a command ends. -/
inductive Ending
  | status (n : Nat)
  /-- The command line itself ended it. -/
  | exit (n : Nat)
  | fault (f : Fault)
deriving DecidableEq, Repr

/-- What comes of a command. -/
structure Outcome where
  ending : Ending
  out : String := ""
  err : String := ""
  /-- The file that was written: the names that lead to it and its text. -/
  written : Option (List String × String) := none

/-- The log of a command: which levels it shows, if it was asked for. -/
structure Log where
  threshold : Option Nat
deriving DecidableEq, Repr

namespace Log

/-- The variable that asks for a log. -/
def variableName : String := "STACHE_LOG_LEVEL"

/-- The ranks of the levels by their names. -/
def ranks : List (String × Nat) :=
  [("CRITICAL", 50), ("FATAL", 50), ("ERROR", 40), ("WARN", 30), ("WARNING", 30), ("INFO", 20),
   ("DEBUG", 10), ("NOTSET", 0)]

/-- Reserved names that are no levels, and whether they fail for their type. -/
def reserved : List (String × Bool) := [("BASIC_FORMAT", false), ("_STYLES", true)]

/-- The log that a level's name asks for; names that are not known mean warnings. -/
def ofName (name : String) : Except Fault Log :=
  let upper := String.ofList (name.toList.map Char.toUpper)
  match reserved.lookup upper with
  | some ofWrongType => .error (.badLogLevel ofWrongType)
  | none => .ok ⟨some ((ranks.lookup upper).getD Level.warning.rank)⟩

/-- The log of a command; without being asked for, it shows the wording of warnings. -/
def setUp (verbose : Bool) (env : Environment) : Except Fault Log :=
  if verbose then ofName "DEBUG"
  else
    match env.lookup variableName with
    | none | some "" => .ok ⟨none⟩
    | some name => ofName name

/-- The line of a notice, if the log shows it. -/
def line (log : Log) (notice : Notice) : String :=
  match notice.level?, log.threshold with
  | none, _ => ""
  | some .warning, none => notice.message ++ "\n"
  | some _, none => ""
  | some level, some threshold =>
    if threshold ≤ level.rank then
      level.label ++ " " ++ notice.teller ++ ": " ++ notice.message ++ "\n"
    else ""

/-- The lines of notices. -/
def lines (log : Log) (notices : List Notice) : String := String.join (notices.map log.line)

end Log

/-- What a part of a command does: a result or a fault, and what there is to tell in either case. -/
structure Part (α : Type) where
  result : Except Fault α
  notices : List Notice := []

/-- What a command prints and writes before it ends with a status or a fault. -/
structure Product where
  out : String := ""
  written : Option (List String × String) := none
  result : Except Fault Nat

/-- The settings that a command works with: an explicit root is stronger than all others. -/
def settingsFor (s : Surroundings) (root : Option String) : Except Fault Settings :=
  match root with
  | none => Settings.load s.libraries.document s.disk ⟨1, s.disk.current⟩ s.environment
  | some root =>
    (Settings.load s.libraries.document s.disk (.ofString root) s.environment).map fun settings =>
      { settings with root := .ofString root }

/-- The engine that settings describe. -/
def engineFor (settings : Settings) : Engine :=
  { source := .folder settings.folder, strict := settings.strict }

/-- Renders a template into the standard output or into a file, which is emptied first and takes
everything. -/
def renderTo (s : Surroundings) (engine : Engine) (t : Template) (data : Value)
    (output : Option String) : Product × List Notice :=
  match output with
  | none =>
    let (result, sink, notices, _) := engine.render s.disk t data s.stdout
    ({ out := sink.text, result := result.map fun _ => 0 }, notices)
  | some path =>
    let path := Path.ofString path
    if path.holdsNull then ({ result := .error .invalidPath }, [])
    else
      match s.disk.writable path with
      | .error fault => ({ result := .error (.disk fault) }, [])
      | .ok names =>
        let (result, sink, notices, _) := engine.render (s.disk.putFile names []) t data {}
        ({ written := some (names, sink.text), result := result.map fun _ => 0 }, notices)

/-- Renders a template. -/
def runRender (s : Surroundings) (settings : Settings) (template : String) (inline : Bool)
    (data output : Option String) : Product × List Notice :=
  let engine := engineFor settings
  let (compiled, notices, engine) :=
    if inline then engine.compile s.disk template else engine.compileNamed s.disk template
  match compiled with
  | .error fault => ({ result := .error fault }, notices)
  | .ok kept =>
    match ContextData.load s.libraries.document s.disk data s.stdin with
    | .error fault => ({ result := .error fault }, notices)
    | .ok context =>
      let (product, more) := renderTo s engine kept.template context output
      (product, notices ++ more)

/-- What is reported of the templates of a folder. -/
structure Checked where
  ok : List String := []
  errors : List (String × Option Int × String) := []

/-- Compiles templates one after the other; a fault that no user can mend ends it. -/
def checkAll (d : Disk) : Engine → Checked → List String → Part Checked
  | _, checked, [] => { result := .ok checked }
  | engine, checked, key :: rest =>
    let (compiled, notices, engine) := engine.compileNamed d key
    let next (checked : Checked) : Part Checked :=
      let after := checkAll d engine checked rest
      { after with notices := notices ++ after.notices }
    let failed (line : Option Int) (message : String) : Part Checked :=
      next { checked with errors := checked.errors ++ [(key, line, message)] }
    match compiled with
    | .ok _ => next { checked with ok := checked.ok ++ [key] }
    | .error (.malformed e) => failed (some e.line) e.problem.message
    | .error fault =>
      if fault.isUserFault then failed none fault.message
      else { result := .error fault, notices }

/-- The report of checked templates. -/
def Checked.report (c : Checked) : Report :=
  let error : String × Option Int × String → Report := fun (key, line, message) =>
    .object [("key", .text key), ("line", (line.map Report.number).getD .null),
      ("message", .text message)]
  .object [("ok", .list (c.ok.map .text)), ("errors", .list (c.errors.map error))]

/-- The keys that patterns pick; no patterns pick all. -/
def keysFor (s : Surroundings) (settings : Settings) (patterns : List String) :
    Except Fault (List String) :=
  settings.folder.list s.libraries.patterns s.disk
    (if patterns.isEmpty then none else some patterns)

/-- Prints a report, and ends with a status if it is printed. -/
def printReport (s : Surroundings) (report : Report) (status : Nat) : Product :=
  match s.stdout.write report.print with
  | .error failure => { result := .error (.failure failure) }
  | .ok sink => { out := sink.text, result := .ok status }

/-- Compiles all templates that patterns pick, and reports. -/
def runCheck (s : Surroundings) (settings : Settings) (patterns : List String) :
    Product × List Notice :=
  match keysFor s settings patterns with
  | .error fault => ({ result := .error fault }, [])
  | .ok keys =>
    let part := checkAll s.disk (engineFor settings) {} keys
    match part.result with
    | .error fault => ({ result := .error fault }, part.notices)
    | .ok checked =>
      (printReport s checked.report (if checked.errors.isEmpty then 0 else 2), part.notices)

/-- Lists all templates that patterns pick. -/
def runList (s : Surroundings) (settings : Settings) (patterns : List String) :
    Product × List Notice :=
  match keysFor s settings patterns with
  | .error fault => ({ result := .error fault }, [])
  | .ok keys => (printReport s (.list (keys.map .text)) 0, [])

/-- Does what an invocation asks for. -/
def Invocation.perform (i : Invocation) (s : Surroundings) : Product × List Notice :=
  match settingsFor s i.root with
  | .error fault => ({ result := .error fault }, [])
  | .ok settings =>
    match i.task with
    | .render template inline data output => runRender s settings template inline data output
    | .check patterns => runCheck s settings patterns
    | .list patterns => runList s settings patterns

/-- What a user is told of a fault. -/
def toldFault (fault : Fault) : String :=
  String.ofList (Text.trimEnd fault.message.toList) ++ "\n"

/-- Runs an invocation. -/
def Invocation.run (i : Invocation) (s : Surroundings) : Outcome :=
  match Log.setUp i.verbose s.environment with
  | .error fault => { ending := .fault fault }
  | .ok log =>
    let (product, notices) := i.perform s
    let lines := log.lines notices
    let (ending, err) := match product.result with
      | .ok status => (Ending.status status, lines)
      | .error fault =>
        if fault.isUserFault then (.status 2, lines ++ toldFault fault) else (.fault fault, lines)
    { ending, out := product.out, err, written := product.written }

/-- Runs a command line. -/
def run (args : List String) (s : Surroundings) : Outcome :=
  match Reading.ofArguments args with
  | .stop status text => { ending := .exit status, out := text }
  | .run invocation => invocation.run s

end Mustache.Command
