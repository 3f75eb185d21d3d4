import Mathlib.Logic.Function.Basic
import Mustache.Proofs.Cache.Asking

/-!
# Calls of a cache from many threads

A call asks a cache for a slot. It looks the slot up, takes the lock of the key from the table of
locks or puts a new one there, acquires the lock, looks the slot up again, loads the text, compiles
it, keeps the template, releases the lock, and drops whatever lock the table has for the key. Each
of these is one move, and between two moves of a call any others may come. A call that waits for a
lock which another call holds stays where it is when it is its turn.

What loading a text comes to is part of the move, since the source of the texts may be anything. A
call that is not interrupted does what asking the cache does.
-/

namespace Mustache

/-- The calls that are made: each has a number, the slot that it asks for, and the thread that makes
it. -/
structure Calls where
  slot : Nat → Slot
  thread : Nat → Nat

/-- Where a call has come to. Locks are numbered. -/
inductive Phase
  | new
  /-- The slot was not there. -/
  | missed
  /-- The call has the lock of the key but does not hold it. -/
  | waiting (lock : Nat)
  | holding (lock : Nat)
  | loading (lock : Nat)
  | compiling (lock : Nat) (text : String)
  | built (lock : Nat) (t : Template)
  /-- The result is known and the lock still held. -/
  | leaving (lock : Nat) (result : Except Fault Kept)
  /-- The lock is released and may still be in the table. -/
  | dropping (result : Except Fault Kept)
  | done (result : Except Fault Kept)

/-- How a build starts. The text of a key in the first space is the key itself. -/
def Phase.ofBuild (slot : Slot) (lock : Nat) : Phase :=
  match slot.space with
  | .inline => .compiling lock slot.key
  | .named => .loading lock

/-- A cache in use by calls. Of the cache only the templates matter: which slots a thread is
compiling, and which keys have locks, is kept here. -/
structure Traffic where
  cache : Cache
  /-- The slots that each thread is compiling, the outermost first. -/
  marks : Nat → List Slot := fun _ => []
  /-- The table of locks. -/
  locks : Slot → Option Nat := fun _ => none
  nextLock : Nat := 0
  /-- The calls that hold the locks. -/
  holder : Nat → Option Nat := fun _ => none
  phase : Nat → Phase := fun _ => .new
  /-- The slots of all builds that were ever started, the latest first. -/
  started : List Slot := []
  /-- The slots of all builds that failed, the latest first. -/
  failed : List Slot := []

/-- What may happen next. -/
inductive Move
  /-- A call goes on, unless it waits for a lock or a text. -/
  | go (i : Nat)
  /-- The text that a call waits for is there, or cannot be had. -/
  | load (i : Nat) (result : Except Fault String)
  /-- The cache is cleared. -/
  | clear

namespace Traffic

variable (a : Calls) (s : Traffic) (i : Nat)

/-- A call comes to a phase. -/
def setPhase (phase : Phase) : Traffic := { s with phase := Function.update s.phase i phase }

/-- The first look-up. -/
def look : Traffic :=
  match s.cache.find? (a.slot i) with
  | some kept => s.setPhase i (.done (.ok kept))
  | none => s.setPhase i .missed

/-- Takes the lock of the key, which is made if there is none. Where the thread is compiling the
slot already, the call fails and touches no lock. -/
def takeLock : Traffic :=
  let marks := s.marks (a.thread i)
  if a.slot i ∈ marks then
    s.setPhase i (.done (.error (.cycle (marks.map Slot.label ++ [(a.slot i).label]))))
  else
    match s.locks (a.slot i) with
    | some lock => s.setPhase i (.waiting lock)
    | none =>
      { s with
        locks := Function.update s.locks (a.slot i) (some s.nextLock)
        nextLock := s.nextLock + 1 }.setPhase i (.waiting s.nextLock)

/-- Acquires a lock that no call holds. -/
def acquire (lock : Nat) : Traffic :=
  match s.holder lock with
  | some _ => s
  | none => { s with holder := Function.update s.holder lock (some i) }.setPhase i (.holding lock)

/-- The second look-up, which starts a build if the slot is still not there. -/
def lookAgain (lock : Nat) : Traffic :=
  match s.cache.find? (a.slot i) with
  | some kept => s.setPhase i (.leaving lock (.ok kept))
  | none =>
    { s with
      marks := Function.update s.marks (a.thread i) (s.marks (a.thread i) ++ [a.slot i])
      started := a.slot i :: s.started }.setPhase i (.ofBuild (a.slot i) lock)

/-- A build ends: the slot is no longer marked. -/
def unmark : Traffic :=
  { s with
    marks := Function.update s.marks (a.thread i) ((s.marks (a.thread i)).erase (a.slot i)) }

/-- A build fails. -/
def fail (lock : Nat) (fault : Fault) : Traffic :=
  { s.unmark a i with failed := a.slot i :: s.failed }.setPhase i (.leaving lock (.error fault))

/-- The text has been loaded, or not. -/
def load (lock : Nat) : Except Fault String → Traffic
  | .ok text => s.setPhase i (.compiling lock text)
  | .error fault => s.fail a i lock fault

/-- Compiles a text. -/
def compile (lock : Nat) (text : String) : Traffic :=
  match Template.compile text (a.slot i).name with
  | .error e => s.fail a i lock (.malformed e)
  | .ok t => (s.unmark a i).setPhase i (.built lock t)

/-- Keeps a template, unless another call has kept one in the meantime. -/
def install (lock : Nat) (t : Template) : Traffic :=
  let installed := s.cache.install (a.slot i) t
  { s with cache := installed.2 }.setPhase i (.leaving lock (.ok installed.1))

/-- Releases a lock. -/
def release (lock : Nat) (result : Except Fault Kept) : Traffic :=
  { s with holder := Function.update s.holder lock none }.setPhase i (.dropping result)

/-- Drops the lock that the table has for the key, whichever it is. -/
def drop (result : Except Fault Kept) : Traffic :=
  { s with locks := Function.update s.locks (a.slot i) none }.setPhase i (.done result)

/-- A move. -/
def step : Move → Traffic
  | .go i =>
    match s.phase i with
    | .new => s.look a i
    | .missed => s.takeLock a i
    | .waiting lock => s.acquire i lock
    | .holding lock => s.lookAgain a i lock
    | .loading _ => s
    | .compiling lock text => s.compile a i lock text
    | .built lock t => s.install a i lock t
    | .leaving lock result => s.release i lock result
    | .dropping result => s.drop a i result
    | .done _ => s
  | .load i result =>
    match s.phase i with
    | .loading lock => s.load a i lock result
    | _ => s
  | .clear => { s with cache := s.cache.clear }

/-- Moves, one after the other. -/
def run (moves : List Move) : Traffic := moves.foldl (step a) s

/-- A cache before any call. -/
def start (c : Cache) : Traffic := { cache := c }

/-! ## A call that is not interrupted -/

section
variable {a s i}

theorem phase_setPhase (phase : Phase) : (s.setPhase i phase).phase i = phase := by
  simp only [setPhase, Function.update_self]

theorem phase_setPhase_of_ne {j : Nat} (h : j ≠ i) (phase : Phase) :
    (s.setPhase i phase).phase j = s.phase j := by
  simp only [setPhase, Function.update_of_ne h]

theorem run_cons (move : Move) (moves : List Move) :
    s.run a (move :: moves) = (s.step a move).run a moves := rfl

theorem run_append (before rest : List Move) :
    s.run a (before ++ rest) = (s.run a before).run a rest :=
  List.foldl_append

/-- What is left of a call that has ended: its result and the templates. -/
structure Ended (a : Calls) (i : Nat) (result : Except Fault Kept) (find? : Slot → Option Kept)
    (s : Traffic) : Prop where
  phase : s.phase i = .done result
  locks : s.locks (a.slot i) = none
  find? : s.cache.find? = find?

/-- A call that has ended makes no more moves. -/
theorem Ended.step_eq {result : Except Fault Kept} {find? : Slot → Option Kept}
    (h : Ended a i result find? s) (text : Except Fault String) :
    s.step a (.go i) = s ∧ s.step a (.load i text) = s := by
  constructor
  · rw [step, h.phase]
  · rw [step, h.phase]

/-- A call that has ended stays so, however often its turn comes. -/
theorem Ended.run {result : Except Fault Kept} {find? : Slot → Option Kept}
    (h : Ended a i result find? s) (n : Nat) :
    Ended a i result find? (s.run a (List.replicate n (.go i))) := by
  induction n with
  | zero => exact h
  | succ n ih =>
    rw [List.replicate_succ, run_cons, (h.step_eq (.ok "")).1]
    exact ih

/-- The end of a call whose result is known. -/
theorem ended_of_leaving {lock : Nat} {result : Except Fault Kept}
    (h : s.phase i = .leaving lock result) (n : Nat) :
    Ended a i result s.cache.find? (s.run a (List.replicate (n + 2) (.go i))) := by
  have hrelease : s.step a (.go i) = s.release i lock result := by rw [step, h]
  have hdrop : (s.release i lock result).step a (.go i)
      = (s.release i lock result).drop a i result := by
    rw [step, release, phase_setPhase]
  rw [List.replicate_succ, List.replicate_succ, run_cons, run_cons, hrelease, hdrop]
  have hphase : ((s.release i lock result).drop a i result).phase i = .done result := by
    rw [drop, phase_setPhase]
  have hlocks : ((s.release i lock result).drop a i result).locks (a.slot i) = none := by
    show Function.update s.locks (a.slot i) none (a.slot i) = none
    rw [Function.update_self]
  exact Ended.run ⟨hphase, hlocks, rfl⟩ n

/-- The end of a build that has its text. -/
theorem ended_of_compiling {lock : Nat} {text : String} (h : s.phase i = .compiling lock text)
    (hfind : s.cache.find? (a.slot i) = none) :
    match (Template.compile text (a.slot i).name).mapError .malformed with
    | .error fault => Ended a i (.error fault) s.cache.find? (s.run a (List.replicate 4 (.go i)))
    | .ok t => Ended a i (.ok ⟨s.cache.next, t⟩) (s.cache.keep (a.slot i) t).find?
        (s.run a (List.replicate 4 (.go i))) := by
  have hcompile : s.step a (.go i) = s.compile a i lock text := by rw [step, h]
  rw [List.replicate_succ, run_cons, hcompile, compile]
  cases Template.compile text (a.slot i).name with
  -- three moves lead from the failure to the end,
  | error e =>
    have hphase : (s.fail a i lock (.malformed e)).phase i =
        .leaving lock (.error (.malformed e)) := by
      rw [fail, phase_setPhase]
    exact ended_of_leaving hphase 1
  -- and two from the template, once it is kept
  | ok t =>
    have hkeep : ((s.unmark a i).setPhase i (.built lock t)).cache.install (a.slot i) t
        = (⟨s.cache.next, t⟩, s.cache.keep (a.slot i) t) := Cache.install_of_find?_none hfind t
    have hstep : ((s.unmark a i).setPhase i (.built lock t)).step a (.go i)
        = ((s.unmark a i).setPhase i (.built lock t)).install a i lock t := by
      rw [step, phase_setPhase]
    have hphase : (((s.unmark a i).setPhase i (.built lock t)).install a i lock t).phase i
        = .leaving lock (.ok ⟨s.cache.next, t⟩) := by
      rw [install, phase_setPhase, hkeep]
    have hcache : (((s.unmark a i).setPhase i (.built lock t)).install a i lock t).cache
        = s.cache.keep (a.slot i) t := congrArg Prod.snd hkeep
    have hended : Ended a i (.ok ⟨s.cache.next, t⟩) _ _ := ended_of_leaving hphase 0
    rw [hcache, ← hstep] at hended
    exact hended

/-- Where a slot is missing, the first four moves of a call start a build. -/
theorem run_missing {c : Cache} (h : c.find? (a.slot i) = none) :
    ((start c).run a (List.replicate 4 (.go i))).cache = c ∧
      ((start c).run a (List.replicate 4 (.go i))).phase i = .ofBuild (a.slot i) 0 := by
  simp [run, start, step, look, takeLock, acquire, lookAgain, setPhase, h]

/-- The moves of a call that no other move interrupts. Where it has ended earlier, it stays so. -/
def alone (i : Nat) (text : Except Fault String) : List Move :=
  List.replicate 4 (.go i) ++ .load i text :: List.replicate 4 (.go i)

section
variable {c : Cache} {loader : Loader} (hcalls : loader.calls = [])
include hcalls

/-- A call for a missing slot has ended as asking the cache ends if it has ended with what is made
of the text. -/
theorem ended_of_made (hfind : c.find? (a.slot i) = none) (hcompiling : a.slot i ∉ c.compiling)
    (h : match loader.made (a.slot i) with
      | .error fault => Ended a i (.error fault) c.find? s
      | .ok t => Ended a i (.ok ⟨c.next, t⟩) (c.keep (a.slot i) t).find? s) :
    Ended a i (c.get loader (a.slot i)).1 (c.get loader (a.slot i)).2.find? s := by
  obtain ⟨told, -, hget⟩ := Cache.get_of_find?_none hcalls hfind hcompiling
  rw [hget]
  cases hresult : loader.made (a.slot i) with
  | error fault =>
    rw [hresult] at h
    exact h
  | ok t =>
    rw [hresult] at h
    exact h

/-- A call that is not interrupted does what asking the cache does, and leaves no lock. -/
theorem run_alone (hcompiling : a.slot i ∉ c.compiling) :
    Ended a i (c.get loader (a.slot i)).1 (c.get loader (a.slot i)).2.find?
      ((start c).run a (alone i (loader.text (a.slot i)))) := by
  cases hfind : c.find? (a.slot i) with
  | some kept =>
    rw [Cache.get_of_find? hfind]
    have hlook : (start c).step a (.go i) = (start c).setPhase i (.done (.ok kept)) := by
      simp only [start, step, look, hfind]
    have hended : Ended a i (.ok kept) c.find? ((start c).step a (.go i)) := by
      rw [hlook]
      exact ⟨phase_setPhase _, rfl, rfl⟩
    rw [alone, List.replicate_succ, List.cons_append, run_cons, run_append, run_cons]
    rw [((hended.run 3).step_eq _).2]
    exact (hended.run 3).run 4
  | none =>
    apply ended_of_made hcalls hfind hcompiling
    obtain ⟨hcache, hphase⟩ := run_missing hfind
    rw [alone, run_append, run_cons, Loader.made]
    generalize (start c).run a (List.replicate 4 (.go i)) = s at hcache hphase ⊢
    subst hcache
    cases hspace : (a.slot i).space with
    | inline =>
      -- the key is its own text, so that the move that brings one does nothing
      rw [Phase.ofBuild, hspace] at hphase
      have hload : s.step a (.load i (loader.text (a.slot i))) = s := by rw [step, hphase]
      have htext : loader.text (a.slot i) = .ok (a.slot i).key := by rw [Loader.text, hspace]
      rw [hload, htext]
      exact ended_of_compiling hphase hfind
    | named =>
      rw [Phase.ofBuild, hspace] at hphase
      have hload : s.step a (.load i (loader.text (a.slot i)))
          = s.load a i 0 (loader.text (a.slot i)) := by
        rw [step, hphase]
      rw [hload]
      cases loader.text (a.slot i) with
      | error fault =>
        have hleaving : (s.load a i 0 (.error fault)).phase i = .leaving 0 (.error fault) := by
          rw [load, fail, phase_setPhase]
        exact ended_of_leaving hleaving 2
      | ok text =>
        have hcompiling : (s.load a i 0 (.ok text)).phase i = .compiling 0 text := by
          rw [load, phase_setPhase]
        exact ended_of_compiling hcompiling hfind

end

end

end Traffic

end Mustache
