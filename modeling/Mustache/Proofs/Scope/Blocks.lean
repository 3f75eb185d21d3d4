import Mustache.Proofs.Scope.Steady

/-!
# Blocks with a frame of their own

A block puts a frame on the stack, runs its body, and takes the innermost frame off again, however
the body has ended and whichever frame that is. So it restores the stack only if its body keeps to
its frame: it never takes off a frame from below it, and behind its last step it has taken off as
many frames as it has put on.

What a program does to the stack is written down in a log. Every step of a program is either in the
log or leaves the stack alone, so that a log leads from the first scope of its program to the last
one. All else about the stack is about logs.

The stack is not all that names resolve by. A look-up in the body may call a method that changes the
value it belongs to, and leaving the frame does not undo that.
-/

namespace Mustache.Scope

/-- A program over a scope. It may go on by what it was answered, and it ends with its first
failure, unless that is one that it attempted. -/
inductive Program
  | done
  | fail (failure : Failure)
  | push (v : Value) (next : Program)
  | pop (next : Value → Program)
  | resolve (name : String) (next : Value → Program)
  /-- Runs a body in a frame of its own. -/
  | block (v : Value) (body next : Program)
  /-- Runs a body and goes on, whether it has failed or not. -/
  | attempt (body : Program) (next : Option Fault → Program)

/-- A completed change of the stack. -/
inductive Shift
  | push
  | pop
deriving DecidableEq

/-- Completed changes of the stack in their order, each with the scope behind it. -/
abbrev Log := List (Shift × Scope)

/-- The course of a program: what it failed with, if it did, where it ended, and its log. -/
structure Course where
  fault : Option Fault
  stage : Stage
  log : Log

namespace Course

/-- The course with earlier changes in front of its own. -/
def behind (c : Course) (earlier : Log) : Course := { c with log := earlier ++ c.log }

/-- A course, and how it goes on from its end unless it has failed. -/
def andThen (c : Course) (next : Stage → Course) : Course :=
  match c.fault with
  | some _ => c
  | none => (next c.stage).behind c.log

/-- Takes the innermost frame off behind a course. Where only the root is left, that is a fault in
place of the one that the course may have ended with. -/
def leave (c : Course) : Course :=
  match c.stage.pop with
  | .error stuck => { c with fault := some stuck }
  | .ok (_, rest) => { c with stage := rest, log := c.log ++ [(.pop, rest.scope)] }

end Course

/-- Runs a program. -/
def Program.exec : Program → Stage → Course
  | .done, s => ⟨none, s, []⟩
  | .fail failure, s => ⟨some (.failure failure), s, []⟩
  | .push v next, s => (next.exec (s.push v)).behind [(.push, s.scope.push v)]
  | .pop next, s =>
    match s.pop with
    | .error fault => ⟨some fault, s, []⟩
    | .ok (v, rest) => ((next v).exec rest).behind [(.pop, rest.scope)]
  | .resolve name next, s =>
    match s.look name with
    | (.error failure, after) => ⟨some (.failure failure), after, []⟩
    | (.ok v, after) => (next v).exec after
  | .block v body next, s =>
    ((body.exec (s.push v)).behind [(.push, s.scope.push v)]).leave.andThen fun rest =>
      next.exec rest
  | .attempt body next, s =>
    let tried := body.exec s
    ((next tried.fault).exec tried.stage).behind tried.log

/-! ## Logs -/

/-- A log leads from one scope to another: each change is made where the one before it ended. -/
inductive Leads : Scope → Log → Scope → Prop
  | nil {s : Scope} : Leads s [] s
  | push {s s' : Scope} {v : Value} {log : Log} (h : Leads (s.push v) log s') :
      Leads s ((.push, s.push v) :: log) s'
  | pop {s s' rest : Scope} {v : Value} {log : Log} (hpop : s.pop = .ok (v, rest))
      (h : Leads rest log s') : Leads s ((.pop, rest) :: log) s'

variable {s s' s'' : Scope} {log more : Log}

/-- A pop takes the innermost value off and leaves the root. -/
theorem pop_eq_ok_iff {v : Value} {rest : Scope} :
    s.pop = .ok (v, rest) ↔ s.root = rest.root ∧ s.inner = v :: rest.inner := by
  obtain ⟨root, inner⟩ := s
  obtain ⟨root', inner'⟩ := rest
  cases inner with
  | nil => simp [pop]
  | cons w inner =>
    simp only [pop, Except.ok.injEq, Prod.mk.injEq, mk.injEq, List.cons.injEq]
    exact and_left_comm

theorem Leads.append (h : Leads s log s') (hmore : Leads s' more s'') :
    Leads s (log ++ more) s'' := by
  induction h with
  | nil => exact hmore
  | push _ ih => exact .push (ih hmore)
  | pop hpop _ ih => exact .pop hpop (ih hmore)

/-- Taking a frame off a stage takes it off its scope, and that is all. -/
theorem Stage.pop_eq_ok {s rest : Stage} {v : Value} (h : s.pop = .ok (v, rest)) :
    (∃ w, s.scope.pop = .ok (w, rest.scope)) ∧ rest.memory = s.memory ∧ rest.asked = s.asked := by
  unfold pop at h
  cases hpop : s.scope.pop with
  | error stuck =>
    rw [hpop] at h
    cases h
  | ok top =>
    rw [hpop] at h
    cases h
    exact ⟨⟨_, rfl⟩, rfl, rfl⟩

/-- Leaving a block leads one value out, or nowhere if there is none to take off. -/
theorem leads_leave {c : Course} (h : Leads s c.log c.stage.scope) :
    Leads s c.leave.log c.leave.stage.scope := by
  unfold Course.leave
  cases hpop : c.stage.pop with
  | error stuck => exact h
  | ok top =>
    obtain ⟨⟨w, hw⟩, -⟩ := Stage.pop_eq_ok hpop
    exact h.append (.pop hw .nil)

/-- The log of a program leads from the scope it is run on to the scope that it leaves. -/
theorem leads_exec (p : Program) (s : Stage) :
    Leads s.scope (p.exec s).log (p.exec s).stage.scope := by
  induction p generalizing s with
  | done => exact .nil
  | fail failure => exact .nil
  | push v next ih => exact .push (ih (s.push v))
  -- a pop at the root is refused, and nothing is shifted then
  | pop next ih =>
    unfold Program.exec
    cases hpop : s.pop with
    | error fault => exact .nil
    | ok top =>
      obtain ⟨⟨w, hw⟩, -⟩ := Stage.pop_eq_ok hpop
      exact .pop hw (ih _ _)
  | resolve name next ih =>
    unfold Program.exec
    have hscope : Leads s.scope [] (s.look name).2.scope := .nil
    generalize s.look name = looked at hscope ⊢
    obtain ⟨result, after⟩ := looked
    cases result with
    | error failure => exact hscope
    | ok v => exact hscope.append (ih v after)
  -- the block puts its value on and takes one value off
  | block v body next ihbody ihnext =>
    have hleft := leads_leave (c := (body.exec (s.push v)).behind [(.push, s.scope.push v)])
      (.push (ihbody (s.push v)))
    rw [Program.exec, Course.andThen]
    split
    · exact hleft
    · exact hleft.append (ihnext _)
  | attempt body next ihbody ihnext => exact (ihbody s).append (ihnext _ _)

/-- The last scope of a log is the first one or stands behind a change. -/
theorem Leads.mem (h : Leads s log s') : s' ∈ s :: log.map Prod.snd := by
  induction h with
  | nil => exact List.mem_cons_self
  | push _ ih => exact List.mem_cons_of_mem _ ih
  | pop _ _ ih => exact List.mem_cons_of_mem _ ih

/-- No change of the stack changes the root. -/
theorem Leads.root_eq (h : Leads s log s') :
    s'.root = s.root ∧ ∀ change ∈ log, change.2.root = s.root := by
  induction h with
  | nil => exact ⟨rfl, by simp⟩
  | push _ ih => exact ⟨ih.1, List.forall_mem_cons.2 ⟨rfl, ih.2⟩⟩
  | pop hpop _ ih =>
    have hroot := (pop_eq_ok_iff.1 hpop).1
    rw [hroot]
    exact ⟨ih.1, List.forall_mem_cons.2 ⟨rfl, ih.2⟩⟩

/-! ## Bodies that keep to their frame -/

/-- The number of frames that are put on the stack. -/
def pushes (log : Log) : Nat := (log.map Prod.fst).count .push

/-- The number of frames that are taken off. -/
def pops (log : Log) : Nat := (log.map Prod.fst).count .pop

section
variable (t : Scope) (log : Log)

@[simp] theorem pushes_push : pushes ((.push, t) :: log) = pushes log + 1 := List.count_cons_self

@[simp] theorem pushes_pop : pushes ((.pop, t) :: log) = pushes log :=
  List.count_cons_of_ne (show Shift.pop ≠ .push from nofun)

@[simp] theorem pops_push : pops ((.push, t) :: log) = pops log :=
  List.count_cons_of_ne (show Shift.push ≠ .pop from nofun)

@[simp] theorem pops_pop : pops ((.pop, t) :: log) = pops log + 1 := List.count_cons_self

end

/-- Up to no change has a log taken off more frames than it has put on, but for `own` frames that
were there when it began. -/
def Spares (own : Nat) (log : Log) : Prop :=
  ∀ before, before <+: log → pops before ≤ pushes before + own

theorem spares_nil (own : Nat) : Spares own [] := by
  intro before hbefore
  rw [List.prefix_nil.1 hbefore]
  exact Nat.zero_le _

/-- A push gives one more value of its own to spare. -/
theorem spares_push {own : Nat} {t : Scope} :
    Spares own ((.push, t) :: log) ↔ Spares (own + 1) log := by
  constructor
  · intro h before hbefore
    have hle := h ((.push, t) :: before) (List.cons_prefix_cons.2 ⟨rfl, hbefore⟩)
    rw [pops_push, pushes_push] at hle
    omega
  · intro h before hbefore
    rcases List.prefix_cons_iff.1 hbefore with rfl | ⟨rest, rfl, hrest⟩
    · exact Nat.zero_le _
    · have hle := h rest hrest
      rw [pops_push, pushes_push]
      omega

theorem spares_pop {own : Nat} {t : Scope} :
    Spares own ((.pop, t) :: log) ↔ ∃ others, own = others + 1 ∧ Spares others log := by
  constructor
  · intro h
    have hle (before : Log) (hbefore : before <+: log) :
        pops before + 1 ≤ pushes before + own := by
      have hle := h ((.pop, t) :: before) (List.cons_prefix_cons.2 ⟨rfl, hbefore⟩)
      rwa [pops_pop, pushes_pop] at hle
    have hown : 0 + 1 ≤ 0 + own := hle [] List.nil_prefix
    refine ⟨own - 1, by omega, ?_⟩
    intro before hbefore
    have hmore := hle before hbefore
    omega
  · rintro ⟨others, rfl, h⟩ before hbefore
    rcases List.prefix_cons_iff.1 hbefore with rfl | ⟨rest, rfl, hrest⟩
    · exact Nat.zero_le _
    · have hle := h rest hrest
      rw [pops_pop, pushes_pop]
      omega

/-- A log that spares the frames below those that are its own leaves them where they are, and it
leaves so many of its own as the count says. -/
theorem Leads.spares {below own : List Value} (h : Leads s log s') (hs : s.inner = own ++ below)
    (hspares : Spares own.length log) :
    ∃ left, s'.inner = left ++ below ∧ left.length + pops log = own.length + pushes log := by
  induction h generalizing own with
  | nil => exact ⟨own, hs, rfl⟩
  | @push s s' v log _ ih =>
    have hpushed : (s.push v).inner = (v :: own) ++ below := congrArg (v :: ·) hs
    obtain ⟨left, hleft, hcount⟩ := ih hpushed (spares_push.1 hspares)
    refine ⟨left, hleft, ?_⟩
    rw [List.length_cons] at hcount
    rw [pops_push, pushes_push]
    omega
  | @pop s s' rest v log hpop _ ih =>
    -- the frame that is taken off is one of its own
    obtain ⟨others, hlength, hrest⟩ := spares_pop.1 hspares
    obtain ⟨w, own, rfl⟩ := List.exists_cons_of_length_eq_add_one hlength
    rw [(pop_eq_ok_iff.1 hpop).2, List.cons_append] at hs
    have hothers : rest.inner = own ++ below := (List.cons.inj hs).2
    obtain rfl : own.length = others := Nat.succ.inj hlength
    obtain ⟨left, hleft, hcount⟩ := ih hothers hrest
    refine ⟨left, hleft, ?_⟩
    rw [List.length_cons, pops_pop, pushes_pop]
    omega

/-- A body keeps to its frame: no frame from below it is taken off at any time, and in the end as
many frames have been put on as taken off. The frame itself may be exchanged for another. -/
structure KeepsToFrame (log : Log) : Prop where
  spares : Spares 1 log
  balanced : pushes log = pops log

/-- Behind a body that keeps to its frame there is one frame more than before the block, above the
stack of then. -/
theorem KeepsToFrame.pop_eq {v : Value} (h : KeepsToFrame log) (hleads : Leads (s.push v) log s') :
    ∃ w, s'.pop = .ok (w, s) := by
  have hpushed : (s.push v).inner = [v] ++ s.inner := rfl
  obtain ⟨left, hleft, hcount⟩ := hleads.spares hpushed h.spares
  have hlength : left.length = 1 := by
    rw [h.balanced, List.length_singleton] at hcount
    omega
  obtain ⟨w, rfl⟩ := List.length_eq_one_iff.1 hlength
  exact ⟨w, pop_eq_ok_iff.2 ⟨hleads.root_eq.1, hleft⟩⟩

/-- A block whose body keeps to its frame goes on from the stack that it was entered on, and it
passes on what its body failed with. -/
theorem exec_block {s : Stage} {v : Value} {body : Program}
    (h : KeepsToFrame (body.exec (s.push v)).log) (next : Program) :
    let inside := body.exec (s.push v)
    (Program.block v body next).exec s =
      Course.andThen ⟨inside.fault, { inside.stage with scope := s.scope },
        (.push, s.scope.push v) :: inside.log ++ [(.pop, s.scope)]⟩ next.exec := by
  intro inside
  obtain ⟨w, hpop⟩ := h.pop_eq (leads_exec body (s.push v))
  have hleave : (inside.behind [(.push, s.scope.push v)]).leave =
      ⟨inside.fault, { inside.stage with scope := s.scope },
        (.push, s.scope.push v) :: inside.log ++ [(.pop, s.scope)]⟩ := by
    have hpop : inside.stage.pop = .ok (w.asOf inside.stage.memory, _) :=
      congrArg (Except.map _) hpop
    simp only [Course.leave, Course.behind, hpop, List.singleton_append]
  rw [Program.exec, hleave]

/-! ## What is asked and what is changed -/

/-- A program has come from one stage to another. If what it has asked on the way changes no value
of some kind, and there are only such values in the scopes it has come through, nothing has been
changed. -/
def Stage.ComesTo (s : Stage) (log : Log) (s' : Stage) : Prop :=
  ∃ names, s'.asked = s.asked ++ names ∧
    ∀ Q, Value.Steady (· ∈ names) Q → (∀ t ∈ s.scope :: log.map Prod.snd, t.All Q) →
      s'.memory = s.memory

namespace Stage

theorem comesTo_of_same {s s' : Stage} {log : Log} (hasked : s'.asked = s.asked)
    (hmemory : s'.memory = s.memory) : s.ComesTo log s' :=
  ⟨[], by rw [hasked, List.append_nil], fun _ _ _ => hmemory⟩

/-- What two programs come to, one after the other, is what both ask and remember. -/
theorem ComesTo.trans {s s' s'' : Stage} {log more : Log} (h : s.ComesTo log s')
    (hleads : Leads s.scope log s'.scope) (hmore : s'.ComesTo more s'') :
    s.ComesTo (log ++ more) s'' := by
  obtain ⟨names, hasked, hkeeps⟩ := h
  obtain ⟨others, hasked', hkeeps'⟩ := hmore
  refine ⟨names ++ others, by rw [hasked', hasked, List.append_assoc], fun Q hQ hall => ?_⟩
  rw [List.map_append, ← List.cons_append] at hall
  have hfirst := fun t ht => hall t (List.mem_append_left _ ht)
  have hlast : ∀ t ∈ s'.scope :: more.map Prod.snd, t.All Q :=
    List.forall_mem_cons.2 ⟨hfirst _ hleads.mem, fun t ht => hall t (List.mem_append_right _ ht)⟩
  have hmemory' := hkeeps' Q (hQ.mono fun _ => List.mem_append_right _) hlast
  exact hmemory'.trans (hkeeps Q (hQ.mono fun _ => List.mem_append_left _) hfirst)

theorem ComesTo.push {s s' : Stage} {v : Value} {log : Log} (h : (s.push v).ComesTo log s') :
    s.ComesTo ((.push, s.scope.push v) :: log) s' := by
  have hstep : s.ComesTo [(.push, s.scope.push v)] (s.push v) := comesTo_of_same rfl rfl
  exact hstep.trans (.push .nil) h

/-- A look-up shifts nothing, and memory changes as it says. -/
theorem comesTo_look (s : Stage) (name : String) : s.ComesTo [] (s.look name).2 := by
  refine ⟨[name], rfl, fun Q hQ hall => ?_⟩
  exact snd_lookFrom_of_steady hQ (hall _ List.mem_cons_self) List.mem_cons_self s.asked.length
    s.memory

end Stage

theorem comesTo_leave {s : Stage} {c : Course} (h : s.ComesTo c.log c.stage)
    (hleads : Leads s.scope c.log c.stage.scope) : s.ComesTo c.leave.log c.leave.stage := by
  unfold Course.leave
  cases hpop : c.stage.pop with
  | error stuck => exact h
  | ok top =>
    obtain ⟨-, hmemory, hasked⟩ := Stage.pop_eq_ok hpop
    exact h.trans hleads (Stage.comesTo_of_same hasked hmemory)

/-- Every program comes to what its log says: the induction over programs that the main result rests
on. -/
theorem comesTo_exec (p : Program) (s : Stage) : s.ComesTo (p.exec s).log (p.exec s).stage := by
  induction p generalizing s with
  | done => exact Stage.comesTo_of_same rfl rfl
  | fail failure => exact Stage.comesTo_of_same rfl rfl
  | push v next ih => exact (ih (s.push v)).push
  | pop next ih =>
    unfold Program.exec
    cases hpop : s.pop with
    | error fault => exact Stage.comesTo_of_same rfl rfl
    | ok top =>
      obtain ⟨⟨w, hw⟩, hmemory, hasked⟩ := Stage.pop_eq_ok hpop
      have hstep : s.ComesTo [(.pop, top.2.scope)] top.2 := Stage.comesTo_of_same hasked hmemory
      exact hstep.trans (.pop hw .nil) (ih _ _)
  -- a look-up is the only step that asks or changes the memory
  | resolve name next ih =>
    unfold Program.exec
    have hlook := s.comesTo_look name
    have hscope : Leads s.scope [] (s.look name).2.scope := .nil
    generalize s.look name = looked at hlook hscope ⊢
    obtain ⟨result, after⟩ := looked
    cases result with
    | error failure => exact hlook
    | ok v => exact hlook.trans hscope (ih v after)
  -- inside its frame the body does as it does, and leaving takes the frame off
  | block v body next ihbody ihnext =>
    have hinside := (ihbody (s.push v)).push
    have hleads : Leads s.scope ((body.exec (s.push v)).behind [(.push, s.scope.push v)]).log _ :=
      .push (leads_exec body (s.push v))
    have hleft := comesTo_leave hinside hleads
    rw [Program.exec, Course.andThen]
    split
    · exact hleft
    · exact hleft.trans (leads_leave hleads) (ihnext _)
  | attempt body next ihbody ihnext =>
    exact (ihbody s).trans (leads_exec body s) (ihnext _ _)

/-! ## Steps as programs -/

mutual

/-- A step in front of a program. A frame keeps to itself what its steps failed with. -/
def Step.program : Step → Program → Program
  | .push v, next => .push v next
  | .pop, next => .pop fun _ => next
  | .top, next => next
  | .resolve name, next => .resolve name fun _ => next
  | .describe, next => next
  | .fail failure, _ => .fail failure
  | .frame v steps, next => .attempt (.block v (Program.ofSteps steps) .done) fun _ => next

/-- The program of steps up to the first one that fails. -/
def Program.ofSteps : List Step → Program
  | [] => .done
  | step :: rest => step.program (Program.ofSteps rest)

end

theorem Course.stage_behind (c : Course) (earlier : Log) : (c.behind earlier).stage = c.stage := rfl

theorem Course.stage_leave (c : Course) :
    c.leave.stage =
      match c.stage.pop with
      | .error _ => c.stage
      | .ok (_, rest) => rest := by
  unfold leave
  cases c.stage.pop with
  | error stuck => rfl
  | ok top => rfl

theorem Course.andThen_done (c : Course) : c.andThen Program.done.exec = c := by
  obtain ⟨fault, stage, log⟩ := c
  cases fault with
  | some fault => rfl
  | none => simp only [andThen, Program.exec, behind, List.append_nil]

/-- A block alone pushes its value, does its body and takes a value off. -/
theorem exec_block_done (v : Value) (body : Program) (s : Stage) :
    (Program.block v body .done).exec s =
      ((body.exec (s.push v)).behind [(.push, s.scope.push v)]).leave :=
  Course.andThen_done _

/-- How a course ends. -/
def Course.ending (c : Course) : Option Fault × Stage := (c.fault, c.stage)

mutual

/-- A step is done before the rest of its program, and its fault ends both. -/
theorem ending_program (step : Step) (next : Program) (s : Stage) :
    ((step.program next).exec s).ending =
      match (step.run s).1 with
      | .error fault => (some fault, (step.run s).2)
      | .ok _ => (next.exec (step.run s).2).ending := by
  cases step with
  | push v => rfl
  | pop =>
    simp only [Step.program, Program.exec, Step.run]
    cases s.pop <;> rfl
  | top => rfl
  | resolve name =>
    simp only [Step.program, Program.exec, Step.run]
    rcases s.look name with ⟨result, after⟩
    cases result <;> rfl
  | describe => rfl
  | fail failure => rfl
  | frame v steps =>
    -- the steps inside the frame are a program of their own
    have hstage : ((Program.ofSteps steps).exec (s.push v)).stage =
        (Step.runUntilFault (s.push v) steps).2.2 :=
      congrArg Prod.snd (ending_ofSteps steps (s.push v))
    rw [Step.program, Program.exec, exec_block_done]
    show (next.exec (Course.leave _).stage).ending = _
    rw [Course.stage_leave, Course.stage_behind, hstage, Step.run]
    obtain ⟨answers, fault, after⟩ := Step.runUntilFault (s.push v) steps
    dsimp only
    cases after.pop with
    | error stuck => rfl
    | ok top => rfl

/-- Steps that are written as a program end as the steps do. -/
theorem ending_ofSteps (steps : List Step) (s : Stage) :
    ((Program.ofSteps steps).exec s).ending = (Step.runUntilFault s steps).2 := by
  cases steps with
  | nil => rfl
  | cons step rest =>
    rw [Program.ofSteps, ending_program step _ s, Step.runUntilFault]
    obtain ⟨answer, after⟩ := step.run s
    cases answer with
    | error fault => rfl
    | ok answer => exact ending_ofSteps rest after

end

/-- A frame whose steps keep to it is left with the stack that it was entered on, and with the fault
of its steps. -/
theorem run_frame {s : Stage} {v : Value} {steps : List Step}
    (h : KeepsToFrame ((Program.ofSteps steps).exec (s.push v)).log) :
    let inside := Step.runUntilFault (s.push v) steps
    Step.run s (.frame v steps) =
      (.ok (.frame inside.1 inside.2.1), { inside.2.2 with scope := s.scope }) := by
  intro inside
  obtain ⟨w, hpop⟩ := h.pop_eq (leads_exec _ (s.push v))
  have hstage : ((Program.ofSteps steps).exec (s.push v)).stage = inside.2.2 :=
    congrArg Prod.snd (ending_ofSteps steps (s.push v))
  rw [hstage] at hpop
  have hpop : inside.2.2.pop = .ok (w.asOf inside.2.2.memory, _) := congrArg (Except.map _) hpop
  have hrun : Step.run s (.frame v steps) = match inside.2.2.pop with
      | .error stuck => (.ok (.frame inside.1 (some stuck)), inside.2.2)
      | .ok (_, rest) => (.ok (.frame inside.1 inside.2.1), rest) := rfl
  rw [hrun, hpop]

/-! ## What a program keeps -/

end Mustache.Scope
