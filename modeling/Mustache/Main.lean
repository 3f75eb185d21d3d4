import Mustache.Command.Run
import Mustache.Disk.Pattern
import Mustache.Yaml.Basic

/-!
# The program

Takes a snapshot of the files that a command can read, runs the command on it, and carries out what
comes of it.
-/

namespace Mustache.Program

/-- The entry at a path, if it can be read. -/
partial def readEntry (path : String) : IO (Option Entry) := do
  let place := (← IO.currentDir) / path
  try
    if ← place.isDir then
      let mut entries := []
      for found in ← place.readDir do
        if let some entry ← readEntry (path ++ "/" ++ found.fileName) then
          entries := (found.fileName, entry) :: entries
      return some (.folder entries)
    else return some (.file (← IO.FS.readBinFile place).toList)
  catch _ => return none

/-- The disk with what is at a path. -/
def addPath (d : Disk) (path : String) : IO Disk := do
  match ← readEntry path with
  | none => return d
  | some entry => return d.put ((Path.ofString path).namesFrom d.current) entry

/-- The directory that a path leads into. -/
def directoryOf (path : String) : String :=
  let p := Path.ofString path
  Path.text { p with names := p.names.dropLast }

/-- The paths that an invocation looks at, the current directory first. -/
def pathsOf (i : Command.Invocation) : List String :=
  let named := match i.task with
    | .render _ _ data output => data.toList ++ (output.map directoryOf).toList
    | .check _ | .list _ => []
  "." :: i.root.toList ++ named

/-- Whether an invocation reads the standard input. -/
def readsStdin (i : Command.Invocation) : Bool :=
  match i.task with
  | .render _ _ (some name) _ => name == ContextData.stdinName
  | _ => false

/-- Everything that a stream gives. -/
partial def readAll (stream : IO.FS.Stream) : IO String := do
  let line ← stream.getLine
  if line.isEmpty then return "" else return line ++ (← readAll stream)

/-- The variables of the environment that have a meaning here. -/
def readEnvironment : IO Environment := do
  let names :=
    ["STACHE_ROOT", "STACHE_SUFFIXES", "STACHE_STRICT_PARTIALS", Command.Log.variableName]
  names.filterMapM fun name => do return (← IO.getEnv name).map (name, ·)

/-- The libraries that come with the program. -/
def libraries : Libraries := ⟨Yaml.reader, Pattern.reader⟩

/-- What an invocation can read. -/
def surroundings (i : Command.Invocation) : IO Command.Surroundings := do
  let current := (Path.ofString (← IO.currentDir).toString).names
  let disk ← (pathsOf i).foldlM addPath ⟨.folder [], current⟩
  let stdin ← if readsStdin i then readAll (← IO.getStdin) else pure ""
  let s : Command.Surroundings :=
    { libraries, disk, environment := ← readEnvironment, stdin }
  -- the folder of templates is known only from the settings
  match Command.settingsFor s i.root with
  | .error _ => return s
  | .ok settings =>
    let listed := settings.folder.top disk
    return { s with disk := ← addPath (← addPath disk settings.root.text) listed.text }

/-- Carries out what comes of a command, and gives its status. -/
def carryOut (outcome : Command.Outcome) : IO UInt32 := do
  IO.print outcome.out
  IO.eprint outcome.err
  if let some (names, text) := outcome.written then
    IO.FS.writeFile ("/" ++ String.intercalate "/" names) text
  match outcome.ending with
  | .status n | .exit n => return UInt32.ofNat n
  | .fault f =>
    IO.eprintln (if f.message = "" then reprStr f else f.message)
    return 1

/-- Runs a command line. -/
def run (args : List String) : IO UInt32 := do
  match Command.Reading.ofArguments args with
  | .stop status text => carryOut { ending := .exit status, out := text }
  | .run i => carryOut (i.run (← surroundings i))

end Mustache.Program

/-- The command line. -/
def main (args : List String) : IO UInt32 := Mustache.Program.run args
