import Mustache.Engine
import Mustache.Proofs.Cache.Asking

/-!
# An engine of snapshots

The simplest engine that behaves like one with a cache. It keeps no templates. Beside the texts of
its source it keeps, for each of the two spaces of keys, the text that a key had when it was first
compiled since the cache was last cleared, and it compiles that text anew whenever it is asked.

Clients put requests to either engine through a `Service`, one after the other. They can render the
templates that they obtained earlier, which they name by the order in which they came.
-/

namespace Mustache

/-! ## Clients -/

/-- What a client asks of an engine. -/
inductive Request
  | compile (text : String)
  | compileNamed (name : String)
  /-- Renders a template obtained earlier to a text. -/
  | render (place : Nat) (data : Value)
  /-- Renders a template obtained earlier into a sink. -/
  | renderInto (place : Nat) (data : Value) (sink : Sink)
  | clear
  | isCached (slot : Slot)
  | size
  /-- Puts a text under a name of the source. -/
  | replace (name text : String)

namespace Request

/-- The request for the template of a slot. -/
def ofSlot (slot : Slot) : Request :=
  match slot.space with
  | .inline => .compile slot.key
  | .named => .compileNamed slot.key

end Request

/-- What an engine answers. -/
inductive Answer (Object : Type)
  | template (result : Except Fault Object)
  | text (result : Except Fault String)
  | written (result : Except Fault Unit) (sink : Sink)
  | flag (b : Bool)
  | count (n : Nat)
  | done

namespace Answer

/-- The answer with another object in place of a template. -/
def map {Object Object' : Type} (f : Object → Object') : Answer Object → Answer Object'
  | .template result => .template (result.map f)
  | .text result => .text result
  | .written result sink => .written result sink
  | .flag b => .flag b
  | .count n => .count n
  | .done => .done

end Answer

/-- What an engine with some states offers its clients; templates are handed out as objects. -/
structure Service (State Object : Type) where
  compile : State → String → Except Fault Object × List Notice × State
  compileNamed : State → String → Except Fault Object × List Notice × State
  renderToText : State → Object → Value → Except Fault String × List Notice × State
  render : State → Object → Value → Sink → Except Fault Unit × Sink × List Notice × State
  clear : State → List Notice × State
  isCached : State → Slot → Bool
  size : State → Nat
  replace : State → String → String → State

/-- An engine in use: its state and the objects that it has handed out, in order. -/
structure Session (State Object : Type) where
  state : State
  obtained : List Object := []

namespace Service

variable {State Object : Type}

/-- The answer to a request with the warnings given on the way, and the session after it. -/
def step (o : Service State Object) (s : Session State Object) :
    Request → (Answer Object × List String) × Session State Object
  | .compile text =>
    let (result, notices, state) := o.compile s.state text
    ((.template result, Notice.warnings notices), ⟨state, s.obtained ++ result.toOption.toList⟩)
  | .compileNamed name =>
    let (result, notices, state) := o.compileNamed s.state name
    ((.template result, Notice.warnings notices), ⟨state, s.obtained ++ result.toOption.toList⟩)
  | .render place data =>
    match s.obtained[place]? with
    | none => ((.done, []), s)
    | some object =>
      let (result, notices, state) := o.renderToText s.state object data
      ((.text result, Notice.warnings notices), { s with state })
  | .renderInto place data sink =>
    match s.obtained[place]? with
    | none => ((.done, []), s)
    | some object =>
      let (result, sink, notices, state) := o.render s.state object data sink
      ((.written result sink, Notice.warnings notices), { s with state })
  | .clear =>
    let (notices, state) := o.clear s.state
    ((.done, Notice.warnings notices), { s with state })
  | .isCached slot => ((.flag (o.isCached s.state slot), []), s)
  | .size => ((.count (o.size s.state), []), s)
  | .replace name text => ((.done, []), { s with state := o.replace s.state name text })

/-- The answers to requests. -/
def run (o : Service State Object) (s : Session State Object) :
    List Request → List (Answer Object × List String)
  | [] => []
  | request :: rest => (o.step s request).1 :: run o (o.step s request).2 rest

/-- The session after requests. -/
def after (o : Service State Object) (s : Session State Object) :
    List Request → Session State Object
  | [] => s
  | request :: rest => after o (o.step s request).2 rest

end Service

/-! ## The two engines -/

/-- What an engine with a cache offers. -/
def Engine.service (d : Disk) : Service Engine Kept where
  compile e text := e.compile d text
  compileNamed e name := e.compileNamed d name
  renderToText e kept data := e.renderToText d kept.template data
  render e kept data sink := e.render d kept.template data sink
  clear e := e.clear
  isCached e slot := e.cache.isCached slot
  size e := e.cache.size
  replace e name text := { e with source := e.source.set name text }

/-- A new engine over texts in memory. -/
def Engine.start (texts : List (String × String)) (strict : Bool) : Session Engine Kept :=
  ⟨⟨.memory texts, strict, {}⟩, []⟩

/-- The state of an engine of snapshots. -/
structure Snapshot where
  /-- The texts that the source has now. -/
  source : String → Option String
  /-- The texts that have been captured, by their keys. -/
  captured : Keyspace → List (String × String)

namespace Snapshot

/-- The text captured for a slot. -/
def text? (s : Snapshot) (slot : Slot) : Option String :=
  (s.captured slot.space).lookup slot.key

/-- Captures a text for a slot. -/
def capture (s : Snapshot) (slot : Slot) (text : String) : Snapshot :=
  { s with captured := fun space =>
      if space = slot.space then (slot.key, text) :: s.captured space else s.captured space }

/-- The number of captured texts. -/
def size (s : Snapshot) : Nat := (s.captured .inline).length + (s.captured .named).length

/-- The text of a slot now: a key of the first space is its own text. -/
def current (s : Snapshot) (slot : Slot) : Except Fault String :=
  match slot.space with
  | .inline => .ok slot.key
  | .named =>
    match s.source slot.key with
    | none => .error (.unavailable slot.key "")
    | some text => .ok text

/-- The template of a slot. A captured text is compiled whatever the source has now; otherwise the
text that the source has now is compiled, and captured if it compiles. -/
def ask (s : Snapshot) (slot : Slot) : Except Fault Template × Snapshot :=
  match s.text? slot with
  | some text => ((Template.compile text slot.name).mapError .malformed, s)
  | none =>
    match s.current slot with
    | .error fault => (.error fault, s)
    | .ok text =>
      match Template.compile text slot.name with
      | .error e => (.error (.malformed e), s)
      | .ok t => (.ok t, s.capture slot text)

/-- How included templates are looked up. A missing one that is let pass is not remembered. -/
def finder (strict : Bool) : Finder Snapshot := fun name s =>
  match s.ask ⟨.named, name⟩ with
  | (.ok t, s) => ⟨.ok (some t), s, []⟩
  | (.error (.unavailable key reason), s) =>
    if strict then ⟨.error (.unavailable key reason), s, []⟩
    else ⟨.ok none, s, [.missingInclusion name]⟩
  | (.error fault, s) => ⟨.error fault, s, []⟩

/-- What an engine of snapshots offers. Its renderings follow inclusions to a certain depth. -/
def service (strict : Bool) (depth : Nat) : Service Snapshot Template where
  compile s text :=
    let (result, s) := s.ask ⟨.inline, text⟩
    (result, [], s)
  compileNamed s name :=
    let (result, s) := s.ask ⟨.named, name⟩
    (result, [], s)
  renderToText s t data :=
    let (result, p) := Mustache.render (finder strict) depth t data {} s
    (result.map fun _ => p.sink.text, p.notices, p.library)
  render s t data sink :=
    let (result, p) := Mustache.render (finder strict) depth t data sink s
    (result, p.sink, p.notices, p.library)
  clear s := ([], { s with captured := fun _ => [] })
  isCached s slot := (s.text? slot).isSome
  size s := s.size
  replace s name text := { s with source := fun n => if n = name then some text else s.source n }

/-- A new engine of snapshots over texts. -/
def start (texts : List (String × String)) : Session Snapshot Template :=
  ⟨⟨fun name => texts.lookup name, fun _ => []⟩, []⟩

end Snapshot

end Mustache
