import Mustache.Render.Walk
import Mustache.Source.Basic

/-!
# The engine

An engine compiles templates from texts and from a source, keeps them, and renders them; templates
that they include come from the same source through the same cache. Where missing templates are
allowed, including one renders nothing and is told.
-/

namespace Mustache

/-- An engine. -/
structure Engine where
  source : Source
  /-- Whether including a missing template is a fault. -/
  strict : Bool
  cache : Cache := {}

namespace Engine

/-- Asks the cache for a slot. -/
def get (e : Engine) (d : Disk) (slot : Slot) : Except Fault Kept × List Notice × Engine :=
  let (result, cache) := e.cache.get (e.source.loader d) slot
  let (notices, cache) := cache.takeNotices
  (result, notices, { e with cache })

/-- The template of a text. -/
def compile (e : Engine) (d : Disk) (text : String) : Except Fault Kept × List Notice × Engine :=
  e.get d ⟨.inline, text⟩

/-- The template of a name. -/
def compileNamed (e : Engine) (d : Disk) (name : String) :
    Except Fault Kept × List Notice × Engine :=
  e.get d ⟨.named, name⟩

/-- How an engine looks up included templates. -/
def finder (source : Source) (strict : Bool) (d : Disk) : Finder Cache := fun name cache =>
  let (result, cache) := cache.get (source.loader d) ⟨.named, name⟩
  let (notices, cache) := cache.takeNotices
  match result with
  | .ok kept => ⟨.ok (some kept.template), cache, notices⟩
  | .error (.unavailable key reason) =>
    if strict then ⟨.error (.unavailable key reason), cache, notices⟩
    else ⟨.ok none, cache, notices ++ [.missingInclusion name]⟩
  | .error fault => ⟨.error fault, cache, notices⟩

/-- A number of templates that no chain of different ones reached from a template exceeds: every
step of the chain is a tag in that template, in one of the cache, or in a text of the source. -/
def depthBound (e : Engine) (d : Disk) (t : Template) : Nat :=
  let tags (t : Template) : Nat := (Node.allInclusions t.nodes).length
  let kept := e.cache.entries.foldr (fun entry total => tags entry.2.template + total) 0
  tags t + kept + e.source.volume d + 1

/-- Renders a template with a value into a sink. -/
def render (e : Engine) (d : Disk) (t : Template) (data : Value) (sink : Sink) :
    Except Fault Unit × Sink × List Notice × Engine :=
  let (result, p) :=
    Mustache.render (finder e.source e.strict d) (e.depthBound d t) t data sink e.cache
  (result, p.sink, p.notices, { e with cache := p.library })

/-- Renders a template with a value to a text. -/
def renderToText (e : Engine) (d : Disk) (t : Template) (data : Value) :
    Except Fault String × List Notice × Engine :=
  let (result, sink, notices, e) := e.render d t data {}
  (result.map fun _ => sink.text, notices, e)

/-- Forgets all templates. -/
def clear (e : Engine) : List Notice × Engine :=
  let (notices, cache) := e.cache.clear.takeNotices
  (notices, { e with cache })

end Engine

end Mustache
