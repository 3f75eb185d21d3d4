import Mustache.Proofs.Render.Congruence

/-!
# Walks in step

Two walks go in step if they end alike and keep what relates their progress. Any relation will do
that has the same sinks and the same memory on both sides and does not care which these are: then
whatever a walk does apart from inclusions is in step with itself. What the relation says of
notices and libraries is free, so that one side may tell or remember more than the other.

The first use is to write down which names a rendering comes to. That changes nothing of it.
-/

namespace Mustache

variable {L L' : Type}

/-- A relation between the progress of two walks that is about sinks and memories only in that they
are the same, and perhaps in how the sinks are flushed. -/
structure Progress.Couples (P : Progress L → Progress L' → Prop) : Prop where
  sink : ∀ {p q}, P p q → p.sink = q.sink
  memory : ∀ {p q}, P p q → p.memory = q.memory
  setSink : ∀ {p q}, P p q → ∀ sink : Sink, sink.flushFailure = q.sink.flushFailure →
    P { p with sink } { q with sink }
  setMemory : ∀ {p q}, P p q → ∀ memory, P { p with memory } { q with memory }

namespace Walk

variable {α β : Type} {P : Progress L → Progress L' → Prop}

/-- The walks end alike and keep what relates their progress. -/
def InStep (P : Progress L → Progress L' → Prop) (w : Walk L α) (v : Walk L' α) : Prop :=
  ∀ p q, P p q → (w p).1 = (v q).1 ∧ P (w p).2 (v q).2

/-- The second walks need to be in step only after results that the first can have. -/
theorem InStep.bind_of {w : Walk L α} {v : Walk L' α} {f : α → Walk L β} {g : α → Walk L' β}
    (h : InStep P w v) (Good : α → Prop) (hgood : ∀ p q a, P p q → (w p).1 = .ok a → Good a)
    (hf : ∀ a, Good a → InStep P (f a) (g a)) : InStep P (w >>= f) (v >>= g) := by
  intro p q hpq
  obtain ⟨hresult, hafter⟩ := h p q hpq
  have ha := fun a => hgood p q a hpq
  rw [bind_apply, bind_apply]
  rcases hw : w p with ⟨result, p'⟩
  rcases hv : v q with ⟨result', q'⟩
  rw [hw, hv] at hresult hafter
  rw [hw] at ha
  obtain rfl : result = result' := hresult
  cases result with
  | error fault => exact ⟨rfl, hafter⟩
  | ok a => exact hf a (ha a rfl) p' q' hafter

theorem InStep.bind {w : Walk L α} {v : Walk L' α} {f : α → Walk L β} {g : α → Walk L' β}
    (h : InStep P w v) (hf : ∀ a, InStep P (f a) (g a)) : InStep P (w >>= f) (v >>= g) :=
  h.bind_of (fun _ => True) (fun _ _ _ _ _ => trivial) fun a _ => hf a

theorem inStep_pure (a : α) : InStep P (pure a : Walk L α) (pure a) := fun _ _ h => ⟨rfl, h⟩

theorem inStep_throw (fault : Fault) : InStep P (throw fault : Walk L α) (throw fault) :=
  fun _ _ h => ⟨rfl, h⟩

section
variable (hP : Progress.Couples P)
include hP

/-- The same chunk is taken or refused by both sinks. -/
theorem inStep_write (chunk : String) : InStep P (write chunk) (write chunk) := by
  intro p q hpq
  simp only [write, hP.sink hpq]
  cases hwrite : q.sink.write chunk with
  | ok sink => exact ⟨rfl, hP.setSink hpq sink (by rw [Sink.eq_of_write hwrite])⟩
  | error failure => exact ⟨rfl, hpq⟩

/-- Both sides get the same answer from the same memory. -/
theorem inStep_consult (f : Memory → Except Failure α × Memory) :
    InStep P (consult f) (consult f) := by
  intro p q hpq
  rw [consult_apply, consult_apply, hP.memory hpq]
  exact ⟨rfl, hP.setMemory hpq _⟩

/-- What a walk does apart from inclusions is in step with itself. -/
theorem congruence_inStep : Congruence fun {_} (w : Walk L _) (v : Walk L' _) => InStep P w v where
  value := inStep_pure
  andThen := InStep.bind
  consult := inStep_consult hP
  unsupported := inStep_throw .unsupportedNode
  chunk := inStep_write hP

end

end Walk

/-! ## Renderings -/

/-- A flush fails only for a sink that has a failure to raise. -/
theorem Sink.flush_cases (s : Sink) :
    s.flush.2.flushFailure = s.flushFailure ∧ (s.flushFailure = none → s.flush.1 = none) := by
  unfold flush
  cases s.flushes with
  | none => exact ⟨rfl, fun _ => rfl⟩
  | some n => exact ⟨rfl, id⟩

/-- The end of a rendering is the same for the same sink. It may tell something more, if flushing
can fail, which is the same as well. -/
theorem Progress.finish_eq {p : Progress L} {q : Progress L'} (hsink : p.sink = q.sink)
    (result : Except Fault Unit) :
    ∃ sink told, sink.flushFailure = q.sink.flushFailure ∧
      (q.sink.flushFailure = none → told = []) ∧ (p.finish result).1 = (q.finish result).1 ∧
      (p.finish result).2 = { p with sink, notices := p.notices ++ told } ∧
      (q.finish result).2 = { q with sink, notices := q.notices ++ told } := by
  obtain ⟨hafter, hnone⟩ := q.sink.flush_cases
  unfold Progress.finish
  rw [hsink]
  rcases hflush : q.sink.flush with ⟨failure?, sink⟩
  rw [hflush] at hafter hnone
  cases failure? with
  | none => exact ⟨sink, [], hafter, fun _ => rfl, rfl, by simp, by simp⟩
  | some failure =>
    have hfails {told : List Notice} : q.sink.flushFailure = none → told = [] :=
      fun h => absurd (hnone h) nofun
    cases result with
    | ok _ => exact ⟨sink, [], hafter, hfails, rfl, by simp, by simp⟩
    | error fault =>
      dsimp only
      split
      · exact ⟨sink, [.flushFailed failure.message], hafter, hfails, rfl, rfl, rfl⟩
      · exact ⟨sink, [], hafter, hfails, rfl, by simp, by simp⟩

/-- The end of a rendering does nothing to the data. -/
theorem Progress.memory_finish (p : Progress L) (result : Except Fault Unit) :
    (p.finish result).2.memory = p.memory := by
  obtain ⟨sink, told, -, -, -, hafter, -⟩ := finish_eq (rfl : p.sink = p.sink) result
  rw [hafter]

/-- A rendering is a walk from a sink on, and its end. -/
theorem render_eq_finish (finder : Finder L) (depth : Nat) (t : Template) (data : Value)
    (sink : Sink) (library : L) :
    render finder depth t data sink library =
      (Walk.template finder depth [] (.ofRoot data) t ⟨sink, {}, [], library⟩).2.finish
        (Walk.template finder depth [] (.ofRoot data) t ⟨sink, {}, [], library⟩).1 := rfl

/-- Renderings whose walks are in step end alike, and tell the same at their ends. -/
theorem Walk.InStep.render {P : Progress L → Progress L' → Prop} (hP : Progress.Couples P)
    {finder : Finder L} {finder' : Finder L'} {m n : Nat} {t : Template} {data : Value}
    (h : InStep P (Walk.template finder m [] (.ofRoot data) t)
      (Walk.template finder' n [] (.ofRoot data) t)) {sink : Sink} {library : L} {library' : L'}
    (hstart : P ⟨sink, {}, [], library⟩ ⟨sink, {}, [], library'⟩) :
    (render finder m t data sink library).1 = (render finder' n t data sink library').1 ∧
      ∃ p q told, P p q ∧ (q.sink.flushFailure = none → told = []) ∧
        (render finder m t data sink library).2 = { p with notices := p.notices ++ told } ∧
        (render finder' n t data sink library').2 = { q with notices := q.notices ++ told } := by
  obtain ⟨hresult, hafter⟩ := h _ _ hstart
  rw [render_eq_finish, render_eq_finish, hresult]
  obtain ⟨sink', told, hsink', htold, hend, hp, hq⟩ := Progress.finish_eq (hP.sink hafter)
    (Walk.template finder' n [] (.ofRoot data) t ⟨sink, {}, [], library'⟩).1
  exact ⟨hend, _, _, told, hP.setSink hafter sink' hsink', fun h => htold (hsink'.symm.trans h), hp,
    hq⟩

/-! ## Writing down the names -/

/-- A library that is asked as before, and with it the names that it was asked for. -/
def Finder.recording (finder : Finder L) : Finder (L × List String) := fun name (library, asked) =>
  let found := finder name library
  ⟨found.template, (found.library, asked ++ [name]), found.notices⟩

/-- The same progress, apart from the names that one side has written down. -/
structure Progress.Records (p : Progress (L × List String)) (q : Progress L) : Prop where
  sink : p.sink = q.sink
  memory : p.memory = q.memory
  notices : p.notices = q.notices
  library : p.library.1 = q.library

/-- Names that are written down do not part the two sides. -/
theorem Progress.couples_records : Progress.Couples (Progress.Records (L := L)) where
  sink := Records.sink
  memory := Records.memory
  setSink h _ _ := { h with sink := rfl }
  setMemory h _ := { h with memory := rfl }

namespace Walk

variable {finder : Finder L}

/-- A finder that writes names down finds the same. -/
theorem inStep_recording_find (name : String) :
    InStep Progress.Records (find finder.recording name) (find finder name) := by
  intro p q hpq
  simp only [find, Finder.recording, hpq.library]
  exact ⟨trivial, hpq.sink, hpq.memory, congrArg (· ++ _) hpq.notices, rfl⟩

theorem inStep_recording_tell (notice : Notice) :
    InStep Progress.Records (tell notice : Walk (L × List String) Unit) (tell notice) :=
  fun _ _ hpq => ⟨rfl, { hpq with notices := congrArg (· ++ [notice]) hpq.notices }⟩

/-- So rendering with it is the same rendering. -/
theorem inStep_recording (depth : Nat) (active : List String) (scope : Scope) (t : Template) :
    InStep Progress.Records (template finder.recording depth active scope t)
      (template finder depth active scope t) :=
  (congruence_inStep Progress.couples_records).template finder.recording finder
    (fun _ => inStep_throw _) (inStep_throw _) inStep_recording_find inStep_recording_tell depth
    active scope t

end Walk

/-- Writing down the names changes nothing of a rendering. -/
theorem render_recording (finder : Finder L) (depth : Nat) (t : Template) (data : Value)
    (sink : Sink) (library : L) (asked : List String) :
    (render finder.recording depth t data sink (library, asked)).1 =
        (render finder depth t data sink library).1 ∧
      (render finder.recording depth t data sink (library, asked)).2.Records
        (render finder depth t data sink library).2 := by
  have hwalk : Walk.InStep Progress.Records
      (Walk.template finder.recording depth [] (.ofRoot data) t)
      (Walk.template finder depth [] (.ofRoot data) t) := Walk.inStep_recording _ _ _ _
  have hstart : Progress.Records ⟨sink, {}, [], (library, asked)⟩ ⟨sink, {}, [], library⟩ :=
    ⟨rfl, rfl, rfl, rfl⟩
  obtain ⟨hend, p, q, told, hpq, -, hp, hq⟩ := hwalk.render Progress.couples_records hstart
  refine ⟨hend, ?_⟩
  rw [hp, hq]
  -- what is told at the end is the same on both sides
  exact { hpq with notices := congrArg (· ++ told) hpq.notices }

end Mustache
