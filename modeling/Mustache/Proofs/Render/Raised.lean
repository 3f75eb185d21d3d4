import Mustache.Proofs.Render.Output
import Mustache.Proofs.Render.Scoped

/-!
# Where failures come from

Members of objects, iterating over them and asking for their text may fail in any way, and a
rendering passes such failures on as they are, those among them that look like its own. Into a sink
that never fails, a rendering has no fault of output, and a failure that it ends in is one that the
data bring about, one that is answered for an included template, or one of the few that built-in
values have.
-/

namespace Mustache

/-! ## Failures in data -/

/-- Whether a kind of failure is one that built-in values bring about. -/
def FailureKind.isBuiltIn : FailureKind → Bool
  | .missingArgument | .nothingLeft | .undecodable | .tooManyDigits => true
  | _ => false

/-- No built-in failure is of a type that the code asks for, but for those of output. -/
theorem FailureKind.isBuiltIn_of_hasTrait {kind : FailureKind} {t : ErrorTrait} (ht : t ≠ .output)
    (h : kind.hasTrait t = true) : kind.isBuiltIn = false := by
  cases kind with
  | undecodable | tooManyDigits => exact absurd (eq_of_beq h) ht
  | missingArgument | nothingLeft => cases h
  | _ => rfl

/-- Whether a member fails with a failure. -/
def Member.raises (f : Failure) : Member → Bool
  | .value _ => false
  | .failingProperty failure | .failingMethod failure => failure = f

namespace Value

/-- Whether a value fails with a failure when it is asked for a member, for its items or for its
text. -/
def raises (f : Failure) : Value → Bool
  | .object members items _ textFailure =>
    members.any (fun entry => entry.2.raises f) ||
      (match items with
        | .error failure => failure = f
        | .ok _ => false) || textFailure = some f
  | _ => false

/-- Whether a value or one that is in it fails with a failure. -/
def canRaise (f : Failure) (v : Value) : Bool := !v.every fun w => !w.raises f

variable {f : Failure} {v : Value} {name : String}

/-- What members raise does not depend on what buffers hold by now. -/
theorem any_raises_membersRefreshed (f : Failure) (m : Memory) :
    (members : List (String × Member)) →
    (membersRefreshed m members).any (fun entry => entry.2.raises f) =
      members.any (fun entry => entry.2.raises f)
  | [] => rfl
  | (_, member) :: rest => by
    rw [membersRefreshed, List.any_cons, List.any_cons, any_raises_membersRefreshed f m rest]
    cases member <;> rfl

/-- Changing a buffer changes nothing of how a value fails. -/
theorem raises_refreshed (f : Failure) (m : Memory) (v : Value) :
    (v.refreshed m).raises f = v.raises f := by
  cases v with
  | object members items =>
    rcases items with _ | _ | _ <;>
      simp only [refreshed, raises, any_raises_membersRefreshed]
  | _ => rfl

/-- Values that do not fail so give only such values. -/
theorem closed_canRaise (f : Failure) : Closed fun v => v.canRaise f = false := by
  have htest : Heritable fun w => !w.raises f :=
    ⟨rfl, fun _ => rfl, fun _ => rfl, fun _ => rfl, fun _ => rfl, fun _ => rfl, fun _ => rfl,
      fun _ _ _ => rfl, fun m h => by rwa [raises_refreshed]⟩
  simpa only [canRaise, Bool.not_eq_false'] using closed_every htest

/-- What cannot be raised anywhere in a value is not raised by the value itself. -/
theorem raises_of_canRaise (h : v.canRaise f = false) : v.raises f = false := by
  rw [canRaise, Bool.not_eq_false', every, Bool.and_eq_true_iff, Bool.not_eq_true'] at h
  exact h.1

/-- A name fails as the member fails that is found for it. -/
theorem raises_of_ofMember {member? : Option Member} (h : ofMember member? = .error f) :
    ∃ member, member? = some member ∧ member.raises f = true := by
  match member? with
  | none => cases h
  | some (.value v) => cases h
  | some (.failingProperty failure) =>
    refine ⟨_, rfl, decide_eq_true ?_⟩
    rw [ofMember] at h
    split at h
    · cases h
    · exact Except.error.inj h
  | some (.failingMethod failure) => exact ⟨_, rfl, decide_eq_true (Except.error.inj h)⟩

/-- The methods of a buffer fail in built-in ways only. -/
theorem isBuiltIn_of_buffer {origin : Nat} {bs : List UInt8} {member : Member}
    (hmember : Buffer.member? origin bs name = some member) (h : member.raises f = true) :
    f.kind.isBuiltIn = true := by
  unfold Buffer.member? at hmember
  split at hmember
  · obtain rfl := Option.some.inj hmember
    obtain rfl := of_decide_eq_true h
    rfl
  · have hdecoded : (Buffer.decoded bs).raises f = true → f.kind.isBuiltIn = true := by
      unfold Buffer.decoded
      cases Text.decodeUtf8 0 0 bs with
      | ok s => exact nofun
      | error fault => exact fun h => of_decide_eq_true h ▸ rfl
    have hlast : (Buffer.last bs).raises f = true → f.kind.isBuiltIn = true := by
      unfold Buffer.last
      cases bs.getLast? with
      | some b => exact nofun
      | none => exact fun h => of_decide_eq_true h ▸ rfl
    have hall : ∀ entry ∈ Buffer.results origin bs,
        entry.2.raises f = true → f.kind.isBuiltIn = true := by
      simpa [Buffer.results, Member.raises] using ⟨hdecoded, hlast⟩
    exact hall _ (mem_of_lookup hmember) h

/-- The methods of days and moments fail in built-in ways only. -/
theorem isBuiltIn_of_ofNamed {needy : List String} {members : List (String × Value)}
    (h : ofNamed needy members name = .error f) : f.kind.isBuiltIn = true := by
  unfold ofNamed at h
  split at h
  · cases h
  · split at h
    · obtain rfl := Except.error.inj h
      rfl
    · cases h

/-- What is built into values fails in built-in ways, and all other failures are those that objects
are said to bring about. -/
theorem member?_ne_error (hv : v.raises f = false) (hf : f.kind.isBuiltIn = false) (origin : Nat)
    (name : String) : v.member? origin name ≠ .error f := by
  intro h
  cases v with
  | buffer id content =>
    rw [member?] at h
    split at h
    · cases h
    · obtain ⟨member, hmember, hraises⟩ := raises_of_ofMember h
      exact Bool.false_ne_true (hf.symm.trans (isBuiltIn_of_buffer hmember hraises))
  | object members items shown textFailure =>
    simp only [raises, Bool.or_eq_false_iff, List.any_eq_false] at hv
    rw [member?] at h
    split at h
    · cases h
    · obtain ⟨member, hmember, hraises⟩ := raises_of_ofMember h
      exact hv.1.1 _ (mem_of_lookup hmember) hraises
  | date d | moment m => exact Bool.false_ne_true (hf.symm.trans (isBuiltIn_of_ofNamed h))
  | _ => cases h

/-- Items fail as the object says. -/
theorem items?_ne_error (hv : v.raises f = false) (m : Memory) :
    (Memory.items? v m).1 ≠ .error f := by
  intro h
  cases v with
  | stream id items =>
    rw [Memory.items?] at h
    split at h <;> cases h
  | object members items shown textFailure =>
    obtain rfl : items = .error f := h
    simp [raises] at hv
  | _ => cases h

theorem shown_ne_error (hv : v.raises f = false) (hf : f.kind.isBuiltIn = false) (escape : Bool) :
    v.shown escape ≠ .error f := by
  have htext : v.text? ≠ .error f := by
    intro h
    unfold text? at h
    split at h
    · cases h
    · cases h
    · cases h
    · cases h
    · obtain rfl := Except.error.inj h
      simp [raises] at hv
    · -- the number of digits is what the others can fail for
      split at h
      · cases h
      · obtain rfl := Except.error.inj h
        cases hf
  intro h
  unfold shown at h
  split at h
  · cases h
  · exact htext (map_eq_error_iff.1 h)

end Value

/-! ## Scopes -/

namespace Scope

variable {f : Failure} {s : Scope} {name : String} {origin : Nat}

/-- A look-up in frames raises what one of the frames raises. -/
theorem firstMember_ne_error {frames : List Value}
    (h : ∀ frame ∈ frames, frame.member? origin name ≠ .error f) :
    firstMember origin name frames ≠ .error f := by
  induction frames with
  | nil => exact nofun
  | cons frame rest ih =>
    obtain ⟨hframe, hrest⟩ := List.forall_mem_cons.1 h
    unfold firstMember
    split
    · next failure hfailure => exact fun h => hframe (hfailure.trans h)
    · exact nofun
    · exact ih hrest

/-- A look-up fails only as one of the frames does. -/
theorem look_ne_error (hs : s.All fun frame => frame.canRaise f = false)
    (hf : f.kind.isBuiltIn = false) (m : Memory) : (s.look name m).1 ≠ .error f := by
  have hnow := hs.asOf (Value.closed_canRaise f) m
  intro h
  unfold look lookFrom resolveFrom at h
  dsimp only at h
  split at h
  · cases h
  · refine firstMember_ne_error (fun frame hframe => ?_) (map_eq_error_iff.1 h)
    exact Value.member?_ne_error (Value.raises_of_canRaise (hnow frame hframe)) hf _ _

end Scope

/-! ## Walks -/

/-- A sink takes everything, and is flushed without fail. -/
structure Sink.NeverFails (s : Sink) : Prop where
  capacity : s.capacity = none
  flushFailure : s.flushFailure = none

namespace Walk

variable {L α β : Type} {fault : Fault} {w : Walk L α} {g : Memory → Except Failure α × Memory}

/-- Into a sink that never fails, a walk does not end in a certain fault. -/
def Avoids (fault : Fault) (w : Walk L α) : Prop :=
  ∀ p, p.sink.NeverFails → (w p).2.sink.NeverFails ∧ (w p).1 ≠ .error fault

/-- What goes on from an answer avoids the fault if both parts do. -/
theorem Avoids.bind {f : α → Walk L β} (h : Avoids fault w) (hf : ∀ a, Avoids fault (f a)) :
    Avoids fault (w >>= f) := by
  intro p hp
  obtain ⟨hsink, hresult⟩ := h p hp
  rw [bind_apply]
  rcases hwp : w p with ⟨result, q⟩
  rw [hwp] at hsink hresult
  cases result with
  | error other => exact ⟨hsink, fun heq => hresult (congrArg Except.error (Except.error.inj heq))⟩
  | ok a => exact hf a q hsink

theorem avoids_pure (a : α) : Avoids fault (pure a : Walk L α) := fun _ hp => ⟨hp, nofun⟩

theorem avoids_throw {other : Fault} (h : fault ≠ other) : Avoids fault (throw other : Walk L α) :=
  fun _ hp => ⟨hp, fun heq => h (Except.error.inj heq).symm⟩

theorem avoids_write (chunk : String) : Avoids fault (write chunk : Walk L Unit) := by
  intro p hp
  rw [write_apply hp.capacity]
  exact ⟨⟨hp.capacity, hp.flushFailure⟩, nofun⟩

/-- What is asked of the data may fail, but not in that way, and only what it may give matters for
how the walk goes on. -/
theorem avoids_consult (h : ∀ m f, fault = .failure f → (g m).1 ≠ .error f) {next : α → Walk L β}
    (hnext : ∀ m a, (g m).1 = .ok a → Avoids fault (next a)) :
    Avoids fault (consult g >>= next) := by
  intro p hp
  rw [bind_apply, consult_apply]
  cases hresult : (g p.memory).1 with
  | error failure =>
    refine ⟨hp, fun heq => ?_⟩
    exact h _ _ (Except.error.inj heq).symm hresult
  | ok a => exact hnext p.memory a hresult _ hp

theorem avoids_tell (notice : Notice) : Avoids fault (tell notice : Walk L Unit) :=
  fun _ hp => ⟨hp, nofun⟩

/-- A fault that certain values do not bring about: neither a name, nor the items, nor the text of
one of them fails so. -/
structure Spares (fault : Fault) (Q : Value → Prop) : Prop extends Value.Closed Q where
  look : ∀ {s : Scope} {f}, s.All Q → fault = .failure f → ∀ name m, (s.look name m).1 ≠ .error f
  items : ∀ {v f}, Q v → fault = .failure f → ∀ m, (Memory.items? v m).1 ≠ .error f
  shown : ∀ {v f}, Q v → fault = .failure f → ∀ escape, v.shown escape ≠ .error f

/-- No value brings about a fault of output. -/
theorem spares_output (phase : OutputPhase) (cause : Failure) :
    Spares (.output phase cause) fun _ => True :=
  ⟨Value.closed_true, nofun, nofun, nofun⟩

/-- Data that cannot raise a failure spare a rendering this failure. -/
theorem spares_failure {f : Failure} (hf : f.kind.isBuiltIn = false) :
    Spares (.failure f) fun v => v.canRaise f = false where
  toClosed := Value.closed_canRaise f
  look hs hfault _ m := Fault.failure.inj hfault ▸ Scope.look_ne_error hs hf m
  items hv hfault m :=
    Fault.failure.inj hfault ▸ Value.items?_ne_error (Value.raises_of_canRaise hv) m
  shown hv hfault escape :=
    Fault.failure.inj hfault ▸ Value.shown_ne_error (Value.raises_of_canRaise hv) hf escape

section
variable {Q : Value → Prop}

/-- All that a rendering is put together from avoids a fault that neither data nor sink bring
about. -/
theorem scopedCongruence_avoids (h : Spares fault Q) (hunsupported : fault ≠ .unsupportedNode) :
    ScopedCongruence (fun {_} (w : Walk L _) (_ : Walk L _) => Avoids fault w) (fun _ => True)
      (SameScopes Q) (SameValues Q) where
  value := avoids_pure
  andThen := Avoids.bind
  unsupported := avoids_throw hunsupported
  chunk := avoids_write
  resolve := by
    rintro α s _ name f g ⟨rfl, hs⟩ - hf
    exact avoids_consult (fun m f hfault => h.look hs hfault _ m) fun m v hv =>
      hf v v ⟨rfl, hs.look h.toClosed hv⟩
  items := by
    rintro α v _ f g ⟨rfl, hv⟩ hf
    refine avoids_consult (fun m f hfault => h.items hv hfault m) fun m items hitems =>
      hf items items (rel_sameValues ?_)
    rintro items rfl
    exact h.toClosed.items hv hitems
  shown := by
    rintro v _ ⟨rfl, hv⟩ escape
    have hshown : Avoids fault
        (ofExcept (v.shown escape) >>= fun shown => (pure shown : Walk L _)) :=
      avoids_consult (fun m f hfault => h.shown hv hfault escape) fun _ shown _ => avoids_pure shown
    rwa [bind_pure] at hshown
  absent := fun hvw => by rw [hvw.1]
  push := SameScopes.push

end

end Walk

/-- Whether a fault comes from data or from a sink. -/
def Fault.isForeign : Fault → Bool
  | .output .. | .failure _ => true
  | _ => false

section
variable {L : Type} {fault : Fault} {Q : Value → Prop} {finder : Finder L}

/-- A walk over a template does not end in a fault that neither the data nor the library brings
about. -/
theorem Walk.avoids_template (hfault : fault.isForeign = true) (h : Spares fault Q)
    (hfinder : ∀ name library, (finder name library).template ≠ .error fault) (depth : Nat)
    (active : List String) {scope : Scope} (hscope : scope.All Q) (t : Template) :
    Avoids fault (template finder depth active scope t) := by
  have hother {other : Fault} (hother : other.isForeign = false) : fault ≠ other := by
    rintro rfl
    exact Bool.false_ne_true (hother.symm.trans hfault)
  -- nothing has to be known of nodes and names
  have hknown : Node.Resolves (fun _ => True) fun _ => True :=
    ⟨fun _ _ => trivial, fun _ _ => trivial⟩
  refine (scopedCongruence_avoids h (hother rfl)).template finder finder hknown
    (fun _ => avoids_throw (hother rfl)) (avoids_throw (hother rfl)) ?_ depth active
    ⟨rfl, hscope⟩ fun _ _ => trivial
  intro enter enter' henter name s s' _ hs
  have hfind : Avoids fault (find finder name) := fun p hp => ⟨hp, hfinder name p.library⟩
  refine hfind.bind fun found => ?_
  cases found with
  | none => exact avoids_pure ()
  | some u => exact (avoids_tell _).bind fun _ => henter ⟨rfl, hs.2⟩ fun _ _ => trivial

/-- Into a sink that never fails, a rendering does not end in a fault that neither the data nor the
library brings about. -/
theorem render_ne_error (hfault : fault.isForeign = true) (h : Walk.Spares fault Q)
    (hfinder : ∀ name library, (finder name library).template ≠ .error fault) (depth : Nat)
    (t : Template) {data : Value} (hdata : Q data) {sink : Sink} (hsink : sink.NeverFails)
    (library : L) : (render finder depth t data sink library).1 ≠ .error fault := by
  obtain ⟨hafter, hresult⟩ :=
    Walk.avoids_template hfault h hfinder depth [] (Scope.all_ofRoot hdata)
    t ⟨sink, {}, [], library⟩ hsink
  rw [render_eq_finish, (Progress.finish_of_flushFailure_none hafter.flushFailure _).1]
  exact hresult

/-- A failure that a rendering into a sink that never fails ends in is built in, or comes from the
data, or is answered for an included template; and it ends in a fault of output only if that is
answered for an included template. -/
theorem source_of_render (hfault : fault.isForeign = true)
    (hbuiltIn : ∀ f, fault = .failure f → f.kind.isBuiltIn = false) {depth : Nat} {t : Template}
    {data : Value} {sink : Sink} (hsink : sink.NeverFails) {library : L}
    (h : (render finder depth t data sink library).1 = .error fault) :
    (∃ f, fault = .failure f ∧ data.canRaise f = true) ∨
      ∃ name library, (finder name library).template = .error fault := by
  by_contra hsources
  obtain ⟨hdata, hfinder⟩ := not_or.1 hsources
  have hfinder : ∀ name library, (finder name library).template ≠ .error fault :=
    fun name library heq => hfinder ⟨name, library, heq⟩
  cases fault with
  | output phase cause =>
    exact render_ne_error hfault (Walk.spares_output phase cause) hfinder depth t trivial hsink
      library h
  | failure f =>
    have hdata : data.canRaise f = false :=
      Bool.eq_false_iff.2 fun hraises => hdata ⟨f, rfl, hraises⟩
    exact render_ne_error hfault (Walk.spares_failure (hbuiltIn f rfl)) hfinder depth t hdata hsink
      library h
  | _ => cases hfault

end

/-! ## Sinks that fail -/

/-- A sink fails with a failure, when chunks are written into it or when it is flushed. -/
def Sink.Raises (s : Sink) (f : Failure) : Prop :=
  s.flushFailure = some f ∨ ∃ chunks, (s.feed chunks).1 = some f

/-- The end of a rendering is that of its walk, unless flushing fails. -/
theorem Progress.fault_of_finish {L : Type} {p : Progress L} {result : Except Fault Unit}
    {fault : Fault} (h : (p.finish result).1 = .error fault) :
    result = .error fault ∨
      ∃ f, p.sink.flushFailure = some f ∧ fault = .ofSink .flushing f := by
  have hfailure : ∀ f, p.sink.flush.1 = some f → p.sink.flushFailure = some f := by
    intro f
    unfold Sink.flush
    cases p.sink.flushes with
    | none => exact nofun
    | some n => exact id
  unfold finish at h
  rcases hflush : p.sink.flush with ⟨_ | failure, sink⟩
  · rw [hflush] at h
    exact .inl h
  · have hfailure := hfailure failure (by rw [hflush])
    rw [hflush] at h
    cases result with
    | ok _ => exact .inr ⟨failure, hfailure, (Except.error.inj h).symm⟩
    | error first =>
      -- the first fault stays where the sink fails as sinks do, and gives way to other failures
      by_cases houtput : failure.isOutputFailure = true
      · simp only [houtput, if_true] at h
        exact .inl (congrArg Except.error (Except.error.inj h))
      · simp only [houtput] at h
        refine .inr ⟨failure, hfailure, ?_⟩
        rw [Fault.ofSink, if_neg houtput]
        exact (Except.error.inj h).symm

/-- A rendering ends in a fault of its sink, or as it ends with a sink that never fails. -/
theorem fault_of_render {L : Type} {finder : Finder L} {depth : Nat} {t : Template} {data : Value}
    {sink : Sink} {library : L} {fault : Fault}
    (h : (render finder depth t data sink library).1 = .error fault) :
    (∃ phase f, sink.Raises f ∧ fault = .ofSink phase f) ∨
      (render finder depth t data {} library).1 = .error fault := by
  obtain ⟨chunks, result, after, hwalk⟩ :=
    Walk.blind_template finder depth [] (.ofRoot data) t ⟨{}, {}, [], library⟩
  have hplain : (render finder depth t data {} library).1 = result := by
    rw [render_eq_finish, hwalk.taken (Sink.feed_of_capacity_none (s := {}) rfl chunks)]
    rfl
  have hflush := sink.flushFailure_feed chunks
  rw [hplain]
  -- either the sink takes all chunks, and only flushing is left to fail, or one write failed
  rcases hfeed : sink.feed chunks with ⟨_ | failure, sink'⟩
  · rw [hfeed] at hflush
    rw [render_eq_finish, hwalk.taken hfeed] at h
    rcases Progress.fault_of_finish h with hresult | ⟨f, hf, rfl⟩
    · exact .inr hresult
    · exact .inl ⟨.flushing, f, .inl (hflush.symm.trans hf), rfl⟩
  · rw [hfeed] at hflush
    obtain ⟨hresult, hsink⟩ := hwalk.refused hfeed
    rw [render_eq_finish] at h
    rcases Progress.fault_of_finish h with hfault | ⟨f, hf, rfl⟩
    · refine .inl ⟨.writing, failure, .inr ⟨chunks, by rw [hfeed]⟩, ?_⟩
      exact (Except.error.inj (hresult.symm.trans hfault)).symm
    · rw [hsink] at hf
      exact .inl ⟨.flushing, f, .inl (hflush.symm.trans hf), rfl⟩


/-- Whether a fault is an error of rendering: that a sink has failed, or one of that type that has
come from elsewhere. -/
def Fault.isRenderError : Fault → Bool
  | .output .. => true
  | .failure f => f.kind.hasTrait .render
  | _ => false

/-- A rendering writes the same chunks into every sink, up to the first one that the sink refuses.
If one is refused, that failure is the outcome, as a fault of output if it is a failure of output;
otherwise the outcome is that of a sink that refuses nothing. That is never an error of rendering,
unless the data raise one or there is one for an included template. -/
theorem render_capacity {L : Type} (finder : Finder L) (depth : Nat) (t : Template) (data : Value)
    (library : L) (flushes : Option Nat) (n : Nat) (w : Failure) :
    let whole := render finder depth t data { flushes } library
    let cut := render finder depth t data
      { flushes, capacity := some (.chunks n), writeFailure := w } library
    cut.2.sink.chunks = whole.2.sink.chunks.take n ∧
    cut.1 =
      (if n < whole.2.sink.chunks.length then
        .error (if w.isOutputFailure then .output .writing w else .failure w)
      else whole.1) ∧
    ∀ fault, whole.1 = .error fault → fault.isRenderError = true →
      (∃ f, fault = .failure f ∧ data.canRaise f = true) ∨
        ∃ name library, (finder name library).template = .error fault := by
  intro whole cut
  -- the walk offers its chunks blindly, so both sinks are fed the same ones
  obtain ⟨chunks, result, hrender⟩ := render_eq_feed finder depth t data library
  obtain ⟨hwhole, hall⟩ := hrender { flushes } rfl
  obtain ⟨hcut, hprefix⟩ := hrender { flushes, capacity := some (.chunks n), writeFailure := w } rfl
  rw [Sink.feed_of_capacity_none rfl] at hwhole hall
  rw [Sink.feed_of_capacity rfl (Nat.zero_le n)] at hcut hprefix
  have hwhole : whole.1 = result := hwhole
  have hall : whole.2.sink.chunks = chunks := hall.trans (by simp [Sink.chunks])
  have hprefix : cut.2.sink.chunks = chunks.take n := hprefix.trans (by simp [Sink.chunks])
  have hcut : cut.1 = if n < chunks.length then .error (.ofSink .writing w) else result :=
    hcut.trans (by by_cases hlt : n < chunks.length <;> simp [hlt])
  refine ⟨hall.symm ▸ hprefix, ?_, fun fault hfault herror => ?_⟩
  · rw [hwhole, hall]
    exact hcut
  -- the sink without bounds raises nothing, so data or the finder did
  · refine source_of_render ?_ ?_ ⟨rfl, rfl⟩ hfault
    · cases fault with
      | output | failure => rfl
      | _ => cases herror
    · rintro f rfl
      exact FailureKind.isBuiltIn_of_hasTrait (by decide) herror

/-! A page with a part that is rendered, when it is asked for, into a file that is closed. -/

namespace ClosedPart

def failure : Failure := ⟨.other "RenderError" [.user, .render], "Failed to write"⟩

def data : Value := .object [("part", .failingMethod failure)] (.ok none) "<page>" none

def page : Template := ⟨"page", [.text "Dear ", .variable "part" true]⟩

end ClosedPart

open ClosedPart in
/-- The sink takes everything, and the rendering ends in an error of rendering all the same. -/
theorem part_raises_renderError :
    Template.compile "Dear {{part}}" "page" = .ok page ∧
    (renderWith [] page data {}).1 = .error (.failure failure) ∧
    (Fault.failure failure).isRenderError = true := by
  refine ⟨?_, ?_, rfl⟩
  · with_unfolding_all rfl
  · decide +kernel

open ClosedPart in
/-- That error is one of the data. A sink that takes nothing fails before. -/
theorem render_capacity_part :
    (renderWith [] page data { flushes := none }).1 = .error (.failure failure) ∧
    data.canRaise failure = true ∧
    (renderWith [] page data { flushes := none, capacity := some (.chunks 0) }).1 =
      .error (.output .writing ⟨.os, "write failed"⟩) := by
  have hwhole : (renderWith [] page data { flushes := none }).1 = .error (.failure failure) := by
    decide +kernel
  obtain ⟨-, hcut, hsource⟩ :=
    render_capacity lookupFinder 1 page data [] none 0 ⟨.os, "write failed"⟩
  refine ⟨hwhole, ?_, hcut.trans (by decide +kernel)⟩
  rcases hsource _ hwhole rfl with ⟨f, hf, hraises⟩ | ⟨name, library, hfound⟩
  · exact Fault.failure.inj hf ▸ hraises
  · cases hfound

end Mustache
