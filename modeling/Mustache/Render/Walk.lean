import Mustache.Notice
import Mustache.Render.Sink
import Mustache.Scope
import Mustache.Template.Basic
import Mustache.Value.Text

/-!
# Rendering

A walk over the nodes of a template against a scope, writing into a sink. A template that is
included is looked up when the walk reaches the tag and is walked with the scope of that place. The
keys of the templates being walked are kept in order: a template whose key is among them ends the
walk. Only those entries count down the `depth` argument, all else recurs on the nodes.
-/

namespace Mustache

/-- What a walk reads and changes: the sink, what has been done to the data, what there is to tell,
and the library that included templates come from. -/
structure Progress (Library : Type) where
  sink : Sink
  memory : Memory
  notices : List Notice
  library : Library

/-- A part of a rendering: a result or a fault, and the progress made in either case. -/
abbrev Walk (Library α : Type) := ExceptT Fault (StateM (Progress Library)) α

/-- What looking up an included template gives: the template, nothing to be rendered, or a fault;
the library after it; and what there is to tell. -/
structure Found (Library : Type) where
  template : Except Fault (Option Template)
  library : Library
  notices : List Notice

/-- How a library is asked for a template. -/
abbrev Finder (Library : Type) := String → Library → Found Library

namespace Walk

variable {Library : Type}

/-- Does something with the memory that gives a value or a failure. -/
def consult {α : Type} (f : Memory → Except Failure α × Memory) : Walk Library α := fun p =>
  ((f p.memory).1.mapError .failure, { p with memory := (f p.memory).2 })

/-- Ends the walk with a fault unless there is a value. -/
def ofExcept {α : Type} (x : Except Failure α) : Walk Library α := consult fun m => (x, m)

/-- Writes a chunk. -/
def write (chunk : String) : Walk Library Unit := fun p =>
  match p.sink.write chunk with
  | .ok sink => (.ok (), { p with sink })
  | .error failure => (.error (.ofSink .writing failure), p)

/-- Adds something to tell. -/
def tell (notice : Notice) : Walk Library Unit := fun p =>
  (.ok (), { p with notices := p.notices ++ [notice] })

/-- Looks up an included template. -/
def find (finder : Finder Library) (name : String) : Walk Library (Option Template) := fun p =>
  let found := finder name p.library
  (found.template, { p with library := found.library, notices := p.notices ++ found.notices })

/-- The items of a value that holds items. -/
def items? (v : Value) : Walk Library (Option (List Value)) := consult (Memory.items? v)

/-- Whether a value is absent, false or without items. -/
def isBlank (v : Value) : Walk Library Bool := do
  if v.isAbsent then return true
  else
    match ← items? v with
    | none => return false
    | some items => return items.isEmpty

/-- The value of a name. -/
def resolve (scope : Scope) (name : String) : Walk Library Value := consult (scope.look name)

/-- Writes the text of a value, if it is not empty. -/
def writeValue (v : Value) (escape : Bool) : Walk Library Unit := do
  let shown ← ofExcept (v.shown escape)
  if shown = "" then return () else write shown

mutual

/-- Walks one node; `enter` walks an included template. -/
def node (finder : Finder Library) (enter : Scope → Template → Walk Library Unit) (scope : Scope) :
    Node → Walk Library Unit
  | .text s => write s
  | .variable name escape => do
    let v ← resolve scope name
    writeValue v escape
  | .block false name body => do
    let v ← resolve scope name
    if v.isAbsent then return ()
    else
      match ← items? v with
      | none => nodes finder enter (scope.push v) body
      | some items => items.forM fun item => nodes finder enter (scope.push item) body
  | .block true name body => do
    let v ← resolve scope name
    if ← isBlank v then nodes finder enter scope body else return ()
  | .inclusion name => do
    match ← find finder name with
    | none => return ()
    | some template =>
      tell (.including name scope.depth)
      enter scope template
  | .comment _ => return ()
  | .foreign => throw .unsupportedNode

/-- Walks nodes in order. -/
def nodes (finder : Finder Library) (enter : Scope → Template → Walk Library Unit) (scope : Scope) :
    List Node → Walk Library Unit
  | [] => return ()
  | first :: rest => do
    node finder enter scope first
    nodes finder enter scope rest

end

/-- Walks a template while the templates with the keys `active` are being walked, the outermost
first; at most `depth` templates deep. -/
def template (finder : Finder Library) (depth : Nat) (active : List String) (scope : Scope)
    (t : Template) : Walk Library Unit :=
  if t.key ∈ active then throw (.cycle (active ++ [t.key]))
  else
    match depth with
    | 0 => throw .exhausted
    | depth + 1 => nodes finder (template finder depth (active ++ [t.key])) scope t.nodes

end Walk

/-- The end of a rendering: the sink is flushed once. A fault of the walk is kept when flushing
fails as well, unless the failure is of another kind than those of output. -/
def Progress.finish {Library : Type} (p : Progress Library) (result : Except Fault Unit) :
    Except Fault Unit × Progress Library :=
  let (failure?, sink) := p.sink.flush
  let p := { p with sink }
  match failure? with
  | none => (result, p)
  | some failure =>
    match result with
    | .error fault =>
      if failure.isOutputFailure then
        (.error fault, { p with notices := p.notices ++ [.flushFailed failure.message] })
      else (.error (.failure failure), p)
    | .ok _ => (.error (.ofSink .flushing failure), p)

/-- Renders a template with a value into a sink. -/
def render {Library : Type} (finder : Finder Library) (depth : Nat) (t : Template) (data : Value)
    (sink : Sink) (library : Library) : Except Fault Unit × Progress Library :=
  let (result, p) := Walk.template finder depth [] (.ofRoot data) t ⟨sink, {}, [], library⟩
  p.finish result

/-- Looks a template up in a list; including a name that is not in the list renders nothing. -/
def lookupFinder : Finder (List (String × Template)) := fun name templates =>
  ⟨.ok (templates.lookup name), templates, []⟩

/-- Renders a template that includes others of a list. -/
def renderWith (templates : List (String × Template)) (t : Template) (data : Value) (sink : Sink) :
    Except Fault Unit × Progress (List (String × Template)) :=
  render lookupFinder (templates.length + 1) t data sink templates

end Mustache
