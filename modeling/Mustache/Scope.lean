import Mustache.Fault
import Mustache.Value.Memory

/-!
# Scopes

Names are resolved against a stack of frames, each wrapping one value, from the innermost outwards;
the first value with a member of that name answers. The root frame is part of the type, so a scope
always has one. Looking a name up may change the value that answers, which is remembered. Besides
the operations there are small programs over a scope, in which a frame can be entered for a list of
steps and is left again however they end.
-/

namespace Mustache

/-- A stack of frames over a root. -/
structure Scope where
  root : Value
  /-- The frames above the root, innermost first. -/
  inner : List Value

namespace Scope

/-- The scope of a rendering: the root alone. -/
def ofRoot (root : Value) : Scope := ⟨root, []⟩

/-- All frames, innermost first. -/
def frames (s : Scope) : List Value := s.inner ++ [s.root]

/-- The number of frames. -/
def depth (s : Scope) : Nat := s.inner.length + 1

/-- The innermost value. -/
def top (s : Scope) : Value := s.inner.head?.getD s.root

/-- Adds a frame. -/
def push (s : Scope) (v : Value) : Scope := { s with inner := v :: s.inner }

/-- Takes the innermost frame off; the root stays. -/
def pop (s : Scope) : Except Fault (Value × Scope) :=
  match s.inner with
  | [] => .error .rootFrame
  | v :: rest => .ok (v, { s with inner := rest })

/-- The name of the innermost value itself. -/
def itself : String := "."

/-- The member that the first value with one of that name has. -/
def firstMember (origin : Nat) (name : String) : List Value → Except Failure (Option Value)
  | [] => .ok none
  | v :: rest =>
    match v.member? origin name with
    | .error failure => .error failure
    | .ok (some found) => .ok (some found)
    | .ok none => firstMember origin name rest

/-- The value of a name, absent if no frame has it. What is made in finding it has an origin. -/
def resolveFrom (origin : Nat) (s : Scope) (name : String) : Except Failure Value :=
  if name = itself then .ok s.top
  else (firstMember origin name s.frames).map (·.getD .null)

/-- A number that is the origin of no frame. -/
def origin (s : Scope) : Nat := s.frames.foldr (fun v n => max v.origin n) 0

/-- The value of a name in a scope in which nothing has been changed. -/
def resolve (s : Scope) (name : String) : Except Failure Value := s.resolveFrom s.origin name

/-- The first value that answers for a name, be it with a failure. -/
def answering? (name : String) : List Value → Option Value
  | [] => none
  | v :: rest =>
    match v.member? 0 name with
    | .ok none => answering? name rest
    | _ => some v

/-- A scope as it is by now. -/
def asOf (m : Memory) (s : Scope) : Scope := ⟨s.root.asOf m, s.inner.map (Value.asOf m)⟩

/-- Looks a name up, and remembers what that changes. -/
def lookFrom (origin : Nat) (s : Scope) (name : String) (m : Memory) :
    Except Failure Value × Memory :=
  let now := s.asOf m
  (now.resolveFrom origin name,
    if name = itself then m
    else
      match answering? name now.frames with
      | none => m
      | some v => m.lookedUp v name)

/-- Looks a name up where all that look-ups have made is in frames or gone. -/
def look (s : Scope) (name : String) (m : Memory) : Except Failure Value × Memory :=
  s.lookFrom (max s.origin m.origin) name m

/-- A scope as it is shown to a developer. -/
def inspected (s : Scope) : String := s!"ContextStack(depth={s.depth})"

@[simp] theorem root_push (s : Scope) (v : Value) : (s.push v).root = s.root := rfl

@[simp] theorem depth_push (s : Scope) (v : Value) : (s.push v).depth = s.depth + 1 := rfl

@[simp] theorem pop_push (s : Scope) (v : Value) : (s.push v).pop = .ok (v, s) := rfl

/-- A step of a program over a scope. -/
inductive Step
  | push (v : Value)
  | pop
  | top
  | resolve (name : String)
  | describe
  | fail (failure : Failure)
  /-- Runs steps in a frame of their own. -/
  | frame (v : Value) (steps : List Step)

/-- What a step answers. -/
inductive Answer
  | nothing
  | value (v : Value)
  | text (s : String)
  | fault (f : Fault)
  /-- The answers of the steps in a frame and the fault with which the frame was left. -/
  | frame (answers : List Answer) (fault : Option Fault)

/-- Where a program is: its scope, what it has changed, and the names that it has looked up. -/
structure Stage where
  scope : Scope
  memory : Memory := {}
  asked : List String := []

namespace Stage

/-- Adds a frame. -/
def push (s : Stage) (v : Value) : Stage := { s with scope := s.scope.push v }

/-- Takes the innermost frame off. -/
def pop (s : Stage) : Except Fault (Value × Stage) :=
  s.scope.pop.map fun (v, rest) => (v.asOf s.memory, { s with scope := rest })

/-- Looks a name up. A program may hold on to what is made, so each look-up is an origin of its
own. -/
def look (s : Stage) (name : String) : Except Failure Value × Stage :=
  let (result, memory) := s.scope.lookFrom s.asked.length name s.memory
  (result, { s with memory, asked := s.asked ++ [name] })

end Stage

mutual

/-- Runs a step. An error inside a frame ends that frame and is part of its answer. -/
def Step.run (s : Stage) : Step → Except Fault Answer × Stage
  | .push v => (.ok .nothing, s.push v)
  | .pop =>
    match s.pop with
    | .error fault => (.error fault, s)
    | .ok (v, rest) => (.ok (.value v), rest)
  | .top => (.ok (.value (s.scope.top.asOf s.memory)), s)
  | .resolve name =>
    match s.look name with
    | (.error failure, after) => (.error (.failure failure), after)
    | (.ok v, after) => (.ok (.value v), after)
  | .describe => (.ok (.text s.scope.inspected), s)
  | .fail failure => (.error (.failure failure), s)
  | .frame v steps =>
    let (answers, fault, after) := Step.runUntilFault (s.push v) steps
    match after.pop with
    | .error stuck => (.ok (.frame answers (some stuck)), after)
    | .ok (_, rest) => (.ok (.frame answers fault), rest)

/-- Runs steps up to the first one that fails, which answers nothing. -/
def Step.runUntilFault (s : Stage) : List Step → List Answer × Option Fault × Stage
  | [] => ([], none, s)
  | step :: rest =>
    match Step.run s step with
    | (.error fault, after) => ([.nothing], some fault, after)
    | (.ok answer, after) =>
      let (answers, fault, final) := Step.runUntilFault after rest
      (answer :: answers, fault, final)

end

/-- Runs steps one after the other, whether they fail or not; each answers with the depth behind
it. -/
def Stage.run (s : Stage) : List Step → List (Answer × Nat)
  | [] => []
  | step :: rest =>
    match step.run s with
    | (.error fault, after) => (.fault fault, after.scope.depth) :: run after rest
    | (.ok answer, after) => (answer, after.scope.depth) :: run after rest

end Scope

end Mustache
