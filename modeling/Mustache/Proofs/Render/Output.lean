import Mustache.Proofs.Failing
import Mustache.Proofs.Render.InStep

/-!
# What a sink gets to see

A walk never looks at its sink. There are chunks that it writes into a sink that takes everything;
into any other sink it writes the same chunks up to the first one that is refused, and that refusal
is how it ends. `Sink.feed` says what becomes of chunks in a sink, and `Walk.Writes` says of a walk
that this is all the sink has to do with it.
-/

namespace Mustache

/-! ## Feeding a sink -/

namespace Sink

/-- Writes chunks in order, up to the first one that is refused. -/
def feed : Sink → List String → Option Failure × Sink
  | s, [] => (none, s)
  | s, chunk :: rest =>
    match s.write chunk with
    | .ok s => s.feed rest
    | .error failure => (some failure, s)

variable {s : Sink}

/-- Chunks can be written in two parts, and nothing is written after a failure. -/
theorem feed_append (s : Sink) (chunks more : List String) :
    s.feed (chunks ++ more) =
      match s.feed chunks with
      | (none, s) => s.feed more
      | (some failure, s) => (some failure, s) := by
  induction chunks generalizing s with
  | nil => rfl
  | cons chunk rest ih =>
    simp only [List.cons_append, feed]
    cases s.write chunk with
    | error failure => rfl
    | ok s => exact ih s

/-- Feeding a sink does not change how it is flushed. -/
theorem flushFailure_feed (s : Sink) (chunks : List String) :
    (s.feed chunks).2.flushFailure = s.flushFailure := by
  induction chunks generalizing s with
  | nil => rfl
  | cons chunk rest ih =>
    rw [feed]
    split
    · next after hwrite => rw [ih, eq_of_write hwrite]
    · rfl

/-- A sink without bounds takes all chunks. -/
theorem feed_of_capacity_none (h : s.capacity = none) (chunks : List String) :
    s.feed chunks = (none, { s with written := chunks.reverse ++ s.written }) := by
  induction chunks generalizing s with
  | nil => rfl
  | cons chunk rest ih =>
    have hrest := ih (s := s.put chunk) h
    rw [feed, write_of_capacity_none h]
    dsimp only
    rw [hrest, List.reverse_cons, List.append_assoc]
    rfl

/-- A sink takes the chunks to which it has no objection. -/
theorem feed_without {objection : String → Option Failure}
    (h : s.capacity = some (.without objection)) {chunks : List String}
    (hchunks : ∀ chunk ∈ chunks, objection chunk = none) :
    s.feed chunks = (none, { s with written := chunks.reverse ++ s.written }) := by
  induction chunks generalizing s with
  | nil => rfl
  | cons chunk rest ih =>
    obtain ⟨hchunk, hrest⟩ := List.forall_mem_cons.1 hchunks
    have hfed := ih (s := s.put chunk) h hrest
    rw [feed, write_without h, hchunk]
    dsimp only
    rw [Sink.put] at hfed
    rw [hfed, List.reverse_cons, List.append_assoc]
    rfl

/-- A sink takes chunks up to its capacity and refuses the next one. -/
theorem feed_of_capacity {n : Nat} (h : s.capacity = some (.chunks n)) (hle : s.written.length ≤ n)
    (chunks : List String) :
    s.feed chunks =
      (if n < s.written.length + chunks.length then some s.writeFailure else none,
        { s with written := (chunks.take (n - s.written.length)).reverse ++ s.written }) := by
  induction chunks generalizing s with
  | nil =>
    rw [if_neg (by simpa using hle), List.take_nil]
    rfl
  | cons chunk rest ih =>
    by_cases hlt : s.written.length < n
    -- there is room for one more chunk
    · have hwrite : s.write chunk = .ok { s with written := chunk :: s.written } := by
        simp only [write, h, if_pos hlt]
      obtain ⟨room, hroom⟩ : ∃ room, n - s.written.length = room + 1 :=
        ⟨n - s.written.length - 1, by omega⟩
      have hrest : n - (s.written.length + 1) = room := by omega
      rw [feed, hwrite]
      have hcount : s.written.length + 1 + rest.length = s.written.length + (rest.length + 1) := by
        omega
      simp only [ih (s := { s with written := chunk :: s.written }) h hlt, hroom, hrest, hcount,
        List.take_succ_cons, List.reverse_cons, List.append_assoc, List.singleton_append,
        List.length_cons]
    -- the sink is full, and the first chunk that is left is refused
    · have hwrite : s.write chunk = .error s.writeFailure := by
        simp only [write, h, if_neg hlt]
      have hfull : n - s.written.length = 0 := by omega
      rw [feed, hwrite, hfull, if_pos (by rw [List.length_cons]; omega)]
      rfl

end Sink

namespace Walk

variable {L α β : Type} {p after : Progress L} {w : Walk L α} {f : α → Walk L β}

/-! ## Walks and the chunks they write -/

/-- From some progress on, a walk writes certain chunks and comes to a result, unless one of the
chunks is refused: then it ends with that failure. -/
structure Writes (w : Walk L α) (p : Progress L) (chunks : List String) (result : Except Fault α)
    (after : Progress L) : Prop where
  taken : ∀ {sink sink'}, sink.feed chunks = (none, sink') →
    w { p with sink } = (result, { after with sink := sink' })
  refused : ∀ {sink sink' failure}, sink.feed chunks = (some failure, sink') →
    (w { p with sink }).1 = .error (.ofSink .writing failure) ∧ (w { p with sink }).2.sink = sink'

/-- Wherever it starts, a walk writes certain chunks. -/
def Blind (w : Walk L α) : Prop := ∀ p, ∃ chunks result after, Writes w p chunks result after

/-- What goes on from an answer offers its chunks behind those that were offered before, and the
first failure of the sink ends both. -/
theorem Blind.bind (h : Blind w) (hf : ∀ a, Blind (f a)) : Blind (w >>= f) := by
  intro p
  obtain ⟨chunks, result, after, hw⟩ := h p
  -- a sink that refuses one of the first chunks ends the whole there
  have hrefused : ∀ {sink sink' failure}, sink.feed chunks = (some failure, sink') →
      ((w >>= f) { p with sink }).1 = .error (.ofSink .writing failure) ∧
        ((w >>= f) { p with sink }).2.sink = sink' := by
    intro sink sink' failure hfeed
    obtain ⟨hresult, hsink⟩ := hw.refused hfeed
    rw [bind_apply]
    rcases hwp : w { p with sink } with ⟨result', q⟩
    rw [hwp] at hresult hsink
    obtain rfl : result' = _ := hresult
    exact ⟨rfl, hsink⟩
  cases result with
  -- the first part fails by itself, so no more is offered
  | error fault =>
    refine ⟨chunks, .error fault, after, fun hfeed => ?_, hrefused⟩
    rw [bind_apply, hw.taken hfeed]
  | ok a =>
    obtain ⟨more, result, after', hf⟩ := hf a after
    refine ⟨chunks ++ more, result, after', fun {sink sink'} hfeed => ?_,
      fun {sink sink' failure} hfeed => ?_⟩
    -- all chunks are taken, so those of the first part are
    · rw [Sink.feed_append] at hfeed
      rcases hfirst : sink.feed chunks with ⟨_ | failure, between⟩
      · rw [hfirst] at hfeed
        rw [bind_apply, hw.taken hfirst]
        exact hf.taken hfeed
      · rw [hfirst] at hfeed
        cases hfeed
    -- one is refused: it is one of the first part or of the second
    · rw [Sink.feed_append] at hfeed
      rcases hfirst : sink.feed chunks with ⟨_ | failure', between⟩
      · rw [hfirst] at hfeed
        rw [bind_apply, hw.taken hfirst]
        exact hf.refused hfeed
      · rw [hfirst] at hfeed
        obtain ⟨hfailure, hsink⟩ := Prod.mk.inj hfeed
        obtain rfl := Option.some.inj hfailure
        exact hsink ▸ hrefused hfirst

/-- A walk that comes to a result without writing. -/
theorem blind_of_silent (h : ∀ p : Progress L, ∃ (result : Except Fault α) (after : Progress L),
      ∀ sink, w { p with sink } = (result, { after with sink })) : Blind w := by
  intro p
  obtain ⟨result, after, hw⟩ := h p
  refine ⟨[], result, after, fun hfeed => ?_, fun hfeed => ?_⟩
  · rw [hw]
    exact congrArg (fun s => (result, { after with sink := s })) (Prod.mk.inj hfeed).2
  · cases hfeed

theorem blind_pure (a : α) : Blind (pure a : Walk L α) :=
  blind_of_silent fun p => ⟨.ok a, p, fun _ => rfl⟩

theorem blind_throw (fault : Fault) : Blind (throw fault : Walk L α) :=
  blind_of_silent fun p => ⟨.error fault, p, fun _ => rfl⟩

/-! ## What walks are made of -/

/-- Writing goes on or ends as the sink says, whatever stands before it. -/
theorem blind_write (chunk : String) : Blind (write chunk : Walk L Unit) := by
  intro p
  have hfeed : ∀ sink : Sink, sink.feed [chunk] =
      match sink.write chunk with
      | .ok sink => (none, sink)
      | .error failure => (some failure, sink) := fun sink => by
    rw [Sink.feed]
    cases sink.write chunk <;> rfl
  refine ⟨[chunk], .ok (), p, fun {sink sink'} h => ?_, fun {sink sink' failure} h => ?_⟩
  · rw [hfeed] at h
    rw [write]
    cases hwrite : sink.write chunk with
    | error failure => rw [hwrite] at h; cases h
    | ok after =>
      rw [hwrite] at h
      obtain ⟨-, rfl⟩ := Prod.mk.inj h
      rfl
  · rw [hfeed] at h
    rw [write]
    cases hwrite : sink.write chunk with
    | ok after => rw [hwrite] at h; cases h
    | error failure' =>
      rw [hwrite] at h
      obtain ⟨hfailure, rfl⟩ := Prod.mk.inj h
      obtain rfl := Option.some.inj hfailure
      exact ⟨rfl, rfl⟩

theorem blind_tell (notice : Notice) : Blind (tell notice : Walk L Unit) :=
  blind_of_silent fun p => ⟨.ok (), { p with notices := p.notices ++ [notice] }, fun _ => rfl⟩

theorem blind_consult (f : Memory → Except Failure α × Memory) : Blind (consult f : Walk L α) :=
  blind_of_silent fun p =>
    ⟨(f p.memory).1.mapError .failure, { p with memory := (f p.memory).2 }, fun _ => rfl⟩

/-- A walk that is blind to its sink is put together from such walks. -/
theorem congruence_blind : Congruence fun {_} (w : Walk L _) (_ : Walk L _) => Blind w where
  value := blind_pure
  andThen := Blind.bind
  consult := blind_consult
  unsupported := blind_throw _
  chunk := blind_write

theorem blind_find (finder : Finder L) (name : String) : Blind (find finder name) :=
  blind_of_silent fun p =>
    ⟨(finder name p.library).template,
      { p with
        library := (finder name p.library).library
        notices := p.notices ++ (finder name p.library).notices },
      fun _ => rfl⟩

/-- Walking a template is blind to the sink. -/
theorem blind_template (finder : Finder L) (depth : Nat) (active : List String) (scope : Scope)
    (t : Template) : Blind (template finder depth active scope t) :=
  congruence_blind.template finder finder (fun _ => blind_throw _) (blind_throw _)
    (blind_find finder) blind_tell depth active scope t

end Walk

/-! ## Renderings -/

section
variable {L : Type}

/-- Flushing that goes well leaves the outcome and the chunks as they are. -/
theorem Progress.finish_of_flushFailure_none {p : Progress L}
    (h : p.sink.flushFailure = none) (result : Except Fault Unit) :
    (p.finish result).1 = result ∧ (p.finish result).2.sink.chunks = p.sink.chunks := by
  unfold finish Sink.flush
  cases p.sink.flushes with
  | none => exact ⟨rfl, rfl⟩
  | some n =>
    rw [h]
    exact ⟨rfl, rfl⟩

/-- A flush that raises nothing changes no result. -/
theorem Progress.finish_of_flushed {p : Progress L} {n : Nat} (hflushes : p.sink.flushes = some n)
    (hfailure : p.sink.flushFailure = none) (result : Except Fault Unit) :
    p.finish result = (result, { p with sink := { p.sink with flushes := some (n + 1) } }) := by
  obtain ⟨⟨_, _, _, _, _⟩, _, _, _⟩ := p
  obtain rfl : _ = some n := hflushes
  obtain rfl : _ = none := hfailure
  rfl

/-- A rendering into a sink is what feeding the sink with its chunks makes of it, as long as
flushing goes well. -/
theorem render_eq_feed (finder : Finder L) (depth : Nat) (t : Template) (data : Value)
    (library : L) :
    ∃ (chunks : List String) (result : Except Fault Unit), ∀ sink : Sink,
      sink.flushFailure = none →
        (render finder depth t data sink library).1 =
          (match (sink.feed chunks).1 with
            | none => result
            | some failure => .error (.ofSink .writing failure)) ∧
        (render finder depth t data sink library).2.sink.chunks = (sink.feed chunks).2.chunks := by
  -- the walk does not see the sink, so one list of chunks serves every sink
  obtain ⟨chunks, result, after, hw⟩ :=
    Walk.blind_template finder depth [] (.ofRoot data) t ⟨{}, {}, [], library⟩
  refine ⟨chunks, result, fun sink hflush => ?_⟩
  unfold render
  have hflush' := sink.flushFailure_feed chunks
  rw [hflush] at hflush'
  rcases hfeed : sink.feed chunks with ⟨_ | failure, sink'⟩
  · rw [hfeed] at hflush'
    rw [hw.taken hfeed]
    exact Progress.finish_of_flushFailure_none hflush' result
  · rw [hfeed] at hflush'
    obtain ⟨hresult, hsink⟩ := hw.refused hfeed
    rcases hwalk : Walk.template finder depth [] (.ofRoot data) t ⟨sink, {}, [], library⟩ with
      ⟨result', q⟩
    rw [hwalk] at hresult hsink
    obtain rfl : result' = _ := hresult
    obtain rfl : q.sink = sink' := hsink
    exact Progress.finish_of_flushFailure_none hflush' _

/-- What is written does not show whether a sink takes everything or only has no objection to it. -/
theorem render_without (finder : Finder L) (depth : Nat) (t : Template) (data : Value) (library : L)
    {objection : String → Option Failure}
    (h : ∀ chunk ∈ (render finder depth t data {} library).2.sink.chunks,
      objection chunk = none) :
    let taken := render finder depth t data {} library
    let unopposed := render finder depth t data { capacity := some (.without objection) } library
    unopposed.1 = taken.1 ∧ unopposed.2.sink.chunks = taken.2.sink.chunks ∧
      unopposed.2.notices = taken.2.notices ∧ unopposed.2.library = taken.2.library := by
  obtain ⟨chunks, result, after, hw⟩ :=
    Walk.blind_template finder depth [] (.ofRoot data) t ⟨{}, {}, [], library⟩
  have htaken := hw.taken (Sink.feed_of_capacity_none (s := {}) rfl chunks)
  rw [render_eq_finish, htaken, Progress.finish_of_flushed rfl rfl] at h ⊢
  have hunopposed := hw.taken (Sink.feed_without
    (s := { capacity := some (.without objection) }) rfl (by simpa [Sink.chunks] using h))
  rw [render_eq_finish, hunopposed, Progress.finish_of_flushed rfl rfl]
  exact ⟨rfl, rfl, rfl, rfl⟩

end

end Mustache
