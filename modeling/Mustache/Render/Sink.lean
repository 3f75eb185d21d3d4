import Mustache.Fault

/-!
# Sinks

Where a rendering writes its chunks. A sink may refuse chunks once it holds a number of them or for
what is in them, may fail when it is flushed, and may have nothing to flush.
-/

namespace Mustache

/-- Whether a failure is one of input or output or one of a value, as bytes that are no text and
numbers that are too long are; rendering reports those in its own words. -/
def Failure.isOutputFailure (f : Failure) : Bool := f.kind.hasTrait .output

/-- A failure of a sink as rendering passes it on. -/
def Fault.ofSink (phase : OutputPhase) (f : Failure) : Fault :=
  if f.isOutputFailure then .output phase f else .failure f

/-- What a sink takes that does not take everything. -/
inductive Sink.Capacity
  /-- It takes so many chunks. -/
  | chunks (n : Nat)
  /-- It takes the chunks to which it has no objection. -/
  | without (objection : String → Option Failure)

/-- A place that chunks of text are written to. -/
structure Sink where
  /-- The chunks written, last first. -/
  written : List String := []
  /-- What writing is confined to, if it ever fails. -/
  capacity : Option Sink.Capacity := none
  writeFailure : Failure := ⟨.os, "write failed"⟩
  /-- How often the sink has been flushed; absent if it cannot be flushed. -/
  flushes : Option Nat := some 0
  flushFailure : Option Failure := none

namespace Sink

/-- The chunks written, in order. -/
def chunks (s : Sink) : List String := s.written.reverse

/-- Everything written. -/
def text (s : Sink) : String := String.join s.chunks

/-- Writes a chunk, if the sink still takes one. -/
def write (s : Sink) (chunk : String) : Except Failure Sink :=
  match s.capacity with
  | none => .ok { s with written := chunk :: s.written }
  | some (.chunks n) =>
    if s.written.length < n then .ok { s with written := chunk :: s.written }
    else .error s.writeFailure
  | some (.without objection) =>
    match objection chunk with
    | none => .ok { s with written := chunk :: s.written }
    | some failure => .error failure

theorem write_without {s : Sink} {objection : String → Option Failure}
    (h : s.capacity = some (.without objection)) (chunk : String) :
    s.write chunk =
      match objection chunk with
      | none => .ok { s with written := chunk :: s.written }
      | some failure => .error failure := by
  rw [write, h]

/-- Flushes the sink, if it can be flushed; the attempt counts even when it fails. -/
def flush (s : Sink) : Option Failure × Sink :=
  match s.flushes with
  | none => (none, s)
  | some n => (s.flushFailure, { s with flushes := some (n + 1) })

end Sink

end Mustache
