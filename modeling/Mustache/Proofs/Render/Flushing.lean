import Mustache.Proofs.Render.InStep
import Mustache.Proofs.Render.Output

/-!
# Sinks are flushed once

A walk offers chunks to its sink and never flushes it, and how the sink would take being flushed
makes no difference to the walk. The one flush comes at the end of the rendering, however the walk
ended; `Sink.settle` says what it can change of the outcome.
-/

namespace Mustache

namespace Sink

variable {s : Sink}

/-- Writing does not look at how often the sink was flushed. -/
theorem write_withFlushes (s : Sink) (flushes : Option Nat) (chunk : String) :
    { s with flushes }.write chunk = (s.write chunk).map fun s => { s with flushes } := by
  unfold write
  cases s.capacity with
  | none => rfl
  | some capacity =>
    cases capacity with
    | chunks n =>
      dsimp only
      split <;> rfl
    | without objection =>
      dsimp only
      cases objection chunk <;> rfl

/-- Feeding a sink has nothing to do with how often it has been flushed. -/
theorem feed_withFlushes (s : Sink) (flushes : Option Nat) (chunks : List String) :
    { s with flushes }.feed chunks = ((s.feed chunks).1, { (s.feed chunks).2 with flushes }) := by
  induction chunks generalizing s with
  | nil => rfl
  | cons chunk rest ih =>
    rw [feed, feed, write_withFlushes]
    cases s.write chunk with
    | ok s => exact ih s
    | error failure => rfl

theorem flushes_feed (s : Sink) (chunks : List String) :
    (s.feed chunks).2.flushes = s.flushes := by
  have h := s.feed_withFlushes s.flushes chunks
  have hsink : { (s.feed chunks).2 with flushes := s.flushes } = (s.feed chunks).2 :=
    (congrArg Prod.snd h).symm
  rw [← hsink]

/-- The failure that flushing a sink raises, if there is something to flush and it fails. -/
def raised (s : Sink) : Option Failure := s.flushes.bind fun _ => s.flushFailure

/-- Flushing counts, whether it fails or not. -/
theorem flush_eq (s : Sink) :
    s.flush = (s.raised, { s with flushes := s.flushes.map (· + 1) }) := by
  unfold flush raised
  cases h : s.flushes with
  | none =>
    have hsame : { s with flushes := none } = s := by rw [← h]
    exact Prod.ext rfl hsame.symm
  | some n => rfl

/-- What flushing raises does not depend on what has been written. -/
theorem raised_feed (s : Sink) (chunks : List String) : (s.feed chunks).2.raised = s.raised := by
  rw [raised, raised, flushes_feed, flushFailure_feed]

end Sink

namespace Walk

variable {L α β : Type} {w : Walk L α} {f : α → Walk L β}

/-! ## What a walk asks of its sink -/

/-- Wherever it starts, a walk offers certain chunks to its sink, whether that can be flushed or
not, and comes to the same end; a chunk that is refused is the end. -/
def Offers (w : Walk L α) : Prop :=
  ∀ p, ∃ chunks,
    (∀ flushes, w { p with sink := { p.sink with flushes } } =
      ((w p).1, { (w p).2 with sink := ({ p.sink with flushes }.feed chunks).2 })) ∧
    ∀ failure, (p.sink.feed chunks).1 = some failure →
      (w p).1 = .error (.ofSink .writing failure)

/-- What goes on from an answer offers its chunks behind those that were offered before. -/
theorem Offers.bind (h : Offers w) (hf : ∀ a, Offers (f a)) : Offers (w >>= f) := by
  intro p
  obtain ⟨chunks, hsame, hrefused⟩ := h p
  have hown : (w p).2.sink = (p.sink.feed chunks).2 :=
    congrArg (fun end' => end'.2.sink) (hsame p.sink.flushes)
  -- the first part ends the whole if it fails, and a refusal is such an end
  rcases hw : w p with ⟨fault | a, q⟩
  · rw [hw] at hsame hrefused
    refine ⟨chunks, fun flushes => ?_, fun failure hfailure => ?_⟩
    · rw [bind_apply, bind_apply, hsame, hw]
    · have hend : Except.error fault = .error (.ofSink .writing failure) :=
        hrefused failure hfailure
      rw [bind_apply, hw, Except.error.inj hend]
  · rw [hw] at hsame hrefused hown
    -- it goes on, so all its chunks were taken
    have htaken : (p.sink.feed chunks).1 = none := by
      cases hfeed : (p.sink.feed chunks).1 with
      | none => rfl
      | some failure => cases hrefused failure hfeed
    obtain ⟨more, hsame', hrefused'⟩ := hf a q
    have hfirst : p.sink.feed chunks = (none, q.sink) := Prod.ext htaken hown.symm
    have hthen : ∀ flushes, { p.sink with flushes }.feed (chunks ++ more) =
        { q.sink with flushes }.feed more := by
      intro flushes
      rw [Sink.feed_append, Sink.feed_withFlushes, hfirst]
    refine ⟨chunks ++ more, fun flushes => ?_, fun failure hfailure => ?_⟩
    · have hbetween : ({ p.sink with flushes }.feed chunks).2 = { q.sink with flushes } := by
        rw [Sink.feed_withFlushes, hfirst]
      rw [bind_apply, bind_apply, hsame, hw, hthen, hbetween]
      exact hsame' flushes
    · have hlater : (q.sink.feed more).1 = some failure := by
        rw [← hfailure, Sink.feed_append, hfirst]
      rw [bind_apply, hw]
      exact hrefused' failure hlater

/-- A walk that leaves its sink alone. -/
theorem offers_of_silent (h : ∀ (p : Progress L) (sink : Sink),
    w { p with sink } = ((w p).1, { (w p).2 with sink })) : Offers w :=
  fun p => ⟨[], fun _ => h p _, fun _ hfailure => by cases hfailure⟩

theorem offers_pure (a : α) : Offers (pure a : Walk L α) := offers_of_silent fun _ _ => rfl

theorem offers_throw (fault : Fault) : Offers (throw fault : Walk L α) :=
  offers_of_silent fun _ _ => rfl

theorem offers_tell (notice : Notice) : Offers (tell notice : Walk L Unit) :=
  offers_of_silent fun _ _ => rfl

theorem offers_find (finder : Finder L) (name : String) : Offers (find finder name) :=
  offers_of_silent fun _ _ => rfl

theorem offers_consult (f : Memory → Except Failure α × Memory) : Offers (consult f : Walk L α) :=
  offers_of_silent fun _ _ => rfl

/-- Writing offers its chunk, taken or not. -/
theorem offers_write (chunk : String) : Offers (write chunk : Walk L Unit) := by
  intro p
  refine ⟨[chunk], fun flushes => ?_, fun failure hfailure => ?_⟩
  · rw [write, write, Sink.feed, Sink.write_withFlushes]
    cases p.sink.write chunk <;> rfl
  · rw [Sink.feed] at hfailure
    rw [write]
    cases hwrite : p.sink.write chunk with
    | ok sink =>
      rw [hwrite] at hfailure
      cases hfailure
    | error refusal =>
      rw [hwrite] at hfailure
      rw [Option.some.inj hfailure]

/-- All that a rendering is put together from only offers chunks to the sink. -/
theorem congruence_offers : Congruence fun {_} (w : Walk L _) (_ : Walk L _) => Offers w where
  value := offers_pure
  andThen := Offers.bind
  consult := offers_consult
  unsupported := offers_throw .unsupportedNode
  chunk := offers_write

/-- A walk over a template does nothing to its sink but offer chunks, wherever included templates
come from. -/
theorem offers_template (finder : Finder L) (depth : Nat) (active : List String) (scope : Scope)
    (t : Template) : Offers (template finder depth active scope t) :=
  congruence_offers.template finder finder (fun _ => offers_throw _) (offers_throw _)
    (offers_find finder) offers_tell depth active scope t

end Walk

/-! ## The end of a rendering -/

/-- What becomes of the end of a walk when flushing behind it raises a failure, or none, and what is
told then. A failure of output is the outcome of a walk that went well and gives way to a fault that
came first; any other failure gives way to nothing. -/
def Sink.settle : Option Failure → Except Fault Unit → Except Fault Unit × List Notice
  | none, result => (result, [])
  | some raised, .ok () =>
    (.error (if raised.isOutputFailure then .output .flushing raised else .failure raised), [])
  | some raised, .error fault =>
    if raised.isOutputFailure then (.error fault, [.flushFailed raised.message])
    else (.error (.failure raised), [])

/-- The end of a rendering is settled by what it came to and what the flush raises. -/
theorem Progress.finish_eq_settle {L : Type} (p : Progress L) (result : Except Fault Unit) :
    p.finish result =
      ((Sink.settle p.sink.raised result).1, { p with
        sink := p.sink.flush.2
        notices := p.notices ++ (Sink.settle p.sink.raised result).2 }) := by
  have hplain : p.notices ++ [] = p.notices := List.append_nil _
  unfold finish
  rw [Sink.flush_eq]
  rcases p.sink.raised with _ | raised
  · simp only [Sink.settle, hplain]
  · cases result with
    | ok _ => simp only [Sink.settle, Fault.ofSink, hplain]
    | error fault =>
      simp only [Sink.settle]
      split
      · rfl
      · simp only [hplain]

/-- Wherever included templates come from and however the walk ends, the sink is offered the chunks
that the walk offers a sink with nothing to flush, up to the first refusal, and is then flushed,
once if it can be flushed at all. Beyond that the rendering is the walk, with its end settled by
what flushing raised. -/
theorem render_flushes_once {L : Type} (finder : Finder L) (depth : Nat) (t : Template)
    (data : Value) (sink : Sink) (library : L) :
    let unflushed : Sink := { sink with flushes := none }
    let own := Walk.template finder depth [] (.ofRoot data) t ⟨unflushed, {}, [], library⟩
    let run := render finder depth t data sink library
    ∃ chunks,
      own.2.sink = (unflushed.feed chunks).2 ∧
      (∀ failure, (unflushed.feed chunks).1 = some failure →
        own.1 = .error (.ofSink .writing failure)) ∧
      run.2.sink = (sink.feed chunks).2.flush.2 ∧
      run.2.sink.flushes = sink.flushes.map (· + 1) ∧
      run.1 = (Sink.settle sink.raised own.1).1 ∧
      run.2 = { own.2 with
        sink := run.2.sink
        notices := own.2.notices ++ (Sink.settle sink.raised own.1).2 } := by
  intro unflushed own run
  obtain ⟨chunks, hsame, hrefused⟩ :=
    Walk.offers_template finder depth [] (.ofRoot data) t ⟨unflushed, {}, [], library⟩
  -- the walk does not look at flushes, so it is the same for the sink that counts them
  have hwalk : Walk.template finder depth [] (.ofRoot data) t ⟨sink, {}, [], library⟩ =
      (own.1, { own.2 with sink := (sink.feed chunks).2 }) := hsame sink.flushes
  have hown : own.2.sink = (unflushed.feed chunks).2 :=
    congrArg (fun end' => end'.2.sink) (hsame none)
  -- what is left of the rendering is its end, which flushes
  have hrun : run = Progress.finish { own.2 with sink := (sink.feed chunks).2 } own.1 := by
    show render finder depth t data sink library = _
    rw [render_eq_finish, hwalk]
  rw [Progress.finish_eq_settle, Sink.raised_feed] at hrun
  have hflushes : (sink.feed chunks).2.flush.2.flushes = sink.flushes.map (· + 1) := by
    rw [Sink.flush_eq, Sink.flushes_feed]
  rw [hrun]
  exact ⟨chunks, hown, hrefused, rfl, hflushes, rfl, rfl⟩

/-- A sink that refuses its second chunk and cannot be flushed either: the refusal is reported. -/
example :
    (renderWith [] ⟨"page", [.text "a", .text "b", .text "c"]⟩ (.map [])
      { capacity := some (.chunks 1), flushFailure := some ⟨.value, "closed"⟩ }).1 =
        .error (.output .writing ⟨.os, "write failed"⟩) := by
  rfl

end Mustache
