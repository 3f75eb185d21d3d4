import Mustache.Proofs.Render.Congruence

/-!
# How walks end

A walk ends with a result or in a fault. Apart from inclusions it can end only in failures of the
data, refusals of the sink and nodes of an unknown kind. So where these are expected, what else a
walk may end in is told by what its inclusions may end in.
-/

namespace Mustache

variable {L : Type}

/-- Among some faults are all those in which nodes other than inclusions can end. -/
structure Fault.CoversPlain (Expected : Fault → Prop) : Prop where
  failure : ∀ f, Expected (.failure f)
  output : ∀ phase cause, Expected (.output phase cause)
  unsupported : Expected .unsupportedNode

/-- The fault that a failure of the sink becomes is covered. -/
theorem Fault.CoversPlain.ofSink {Expected : Fault → Prop} (h : CoversPlain Expected)
    (phase : OutputPhase) (f : Failure) : Expected (.ofSink phase f) := by
  unfold Fault.ofSink
  split
  · exact h.output phase f
  · exact h.failure f

namespace Walk

variable {α β : Type} {Kind : L → Prop} {Good : α → Prop} {Expected : Fault → Prop} {w : Walk L α}

/-- With a library of some kind, which it remains, the results of a walk have a property and its
faults are expected. -/
def Ends (Kind : L → Prop) (Good : α → Prop) (Expected : Fault → Prop) (w : Walk L α) : Prop :=
  ∀ p, Kind p.library → Kind (w p).2.library ∧
    match (w p).1 with
    | .ok a => Good a
    | .error fault => Expected fault

/-- What goes on from an expected end ends as expected. -/
theorem Ends.bind {Good' : β → Prop} {f : α → Walk L β} (h : Ends Kind Good Expected w)
    (hf : ∀ a, Good a → Ends Kind Good' Expected (f a)) : Ends Kind Good' Expected (w >>= f) := by
  intro p hp
  have hw := h p hp
  rw [bind_apply]
  rcases hwp : w p with ⟨_ | a, q⟩
  · rw [hwp] at hw
    exact hw
  · rw [hwp] at hw
    exact hf a hw.2 q hw.1

theorem ends_pure {a : α} (h : Good a) : Ends Kind Good Expected (pure a : Walk L α) :=
  fun _ hp => ⟨hp, h⟩

theorem ends_throw {fault : Fault} (h : Expected fault) :
    Ends Kind Good Expected (throw fault : Walk L α) := fun _ hp => ⟨hp, h⟩

theorem ends_tell (notice : Notice) :
    Ends Kind (fun _ => True) Expected (tell notice : Walk L Unit) := fun _ hp => ⟨hp, trivial⟩

/-- Asking the data ends in its answer or in a failure of the data. -/
theorem ends_consult (h : Fault.CoversPlain Expected) (f : Memory → Except Failure α × Memory) :
    Ends Kind (fun _ => True) Expected (consult f : Walk L α) := by
  intro p hp
  rw [consult_apply]
  cases (f p.memory).1 with
  | ok a => exact ⟨hp, trivial⟩
  | error failure => exact ⟨hp, h.failure failure⟩

/-- Writing ends in nothing or in a failure of the sink. -/
theorem ends_write (h : Fault.CoversPlain Expected) (chunk : String) :
    Ends Kind (fun _ => True) Expected (write chunk : Walk L Unit) := by
  intro p hp
  rw [write]
  cases p.sink.write chunk with
  | ok sink => exact ⟨hp, trivial⟩
  | error failure => exact ⟨hp, h.ofSink .writing failure⟩

/-- Only the results are left out of account where walks are put together. -/
theorem congruence_ends (h : Fault.CoversPlain Expected) :
    Congruence fun {_} (w : Walk L _) (_ : Walk L _) => Ends Kind (fun _ => True) Expected w where
  value := fun _ => ends_pure trivial
  andThen := fun hw hf => hw.bind fun a _ => hf a
  consult := ends_consult h
  unsupported := ends_throw h.unsupported
  chunk := ends_write h

/-- How a walk over nodes ends is told by the inclusions in them. -/
theorem ends_nodes (h : Fault.CoversPlain Expected) {finder : Finder L}
    {enter : Scope → Template → Walk L Unit} {body : List Node}
    (hnames : ∀ name ∈ Node.allInclusions body, ∀ scope,
      Ends Kind (fun _ => True) Expected (node finder enter scope (.inclusion name)))
    (scope : Scope) : Ends Kind (fun _ => True) Expected (nodes finder enter scope body) :=
  (congruence_ends h).nodes finder finder enter enter body hnames scope

/-- How a walk over a template ends is told by what asking for included templates can end in. -/
theorem ends_template_of_find (h : Fault.CoversPlain Expected)
    (hcycle : ∀ chain, Expected (.cycle chain)) (hexhausted : Expected .exhausted)
    {finder : Finder L} (hfind : ∀ name, Ends Kind (fun _ => True) Expected (find finder name))
    (depth : Nat) (active : List String) (scope : Scope) (t : Template) :
    Ends Kind (fun _ => True) Expected (template finder depth active scope t) :=
  (congruence_ends h).template finder finder (fun chain => ends_throw (hcycle chain))
    (ends_throw hexhausted) hfind ends_tell depth active scope t

/-- A library that stays of a kind when it is asked stays so in a walk over a template. -/
theorem ends_template_of_finder {finder : Finder L}
    (hfinder : ∀ name library, Kind library → Kind (finder name library).library) (depth : Nat)
    (active : List String) (scope : Scope) (t : Template) :
    Ends Kind (fun _ => True) (fun _ => True) (template finder depth active scope t) := by
  have hfind (name : String) : Ends Kind (fun _ => True) (fun _ => True) (find finder name) := by
    intro p hp
    refine ⟨hfinder name p.library hp, ?_⟩
    split
    · trivial
    · trivial
  have hplain : Fault.CoversPlain fun _ => True := ⟨fun _ => trivial, fun _ _ => trivial, trivial⟩
  exact ends_template_of_find hplain (fun _ => trivial) trivial hfind depth active scope t

end Walk

/-! ## Renderings -/

/-- The end of a rendering leaves the library alone. -/
theorem Progress.library_finish (p : Progress L) (result : Except Fault Unit) :
    (p.finish result).2.library = p.library := by
  unfold Progress.finish
  rcases p.sink.flush with ⟨_ | failure, sink⟩
  · rfl
  · cases result with
    | ok _ => rfl
    | error fault =>
      dsimp only
      split <;> rfl

/-- The end of a rendering adds only a refusal of the sink. -/
theorem Progress.expected_of_finish {Expected : Fault → Prop} (h : Fault.CoversPlain Expected)
    (p : Progress L) {result : Except Fault Unit}
    (hresult : ∀ fault, result = .error fault → Expected fault) :
    ∀ fault, (p.finish result).1 = .error fault → Expected fault := by
  unfold Progress.finish
  rcases p.sink.flush with ⟨_ | failure, sink⟩
  · exact hresult
  · cases result with
    | ok _ =>
      intro fault hfault
      exact Except.error.inj hfault ▸ h.ofSink .flushing failure
    | error first =>
      -- the first fault stays where the sink fails as sinks do, and gives way to other failures
      dsimp only
      split
      · exact hresult
      · intro fault hfault
        exact Except.error.inj hfault ▸ h.failure failure

/-- A rendering ends as its walk does, or in a refusal of the sink. -/
theorem Walk.Ends.render {Kind : L → Prop} {Good : Unit → Prop} {Expected : Fault → Prop}
    (h : Fault.CoversPlain Expected) {finder : Finder L} {depth : Nat} {t : Template} {data : Value}
    (hwalk : Ends Kind Good Expected (Walk.template finder depth [] (.ofRoot data) t)) (sink : Sink)
    {library : L} (hlibrary : Kind library) :
    Kind (render finder depth t data sink library).2.library ∧
      ∀ fault, (render finder depth t data sink library).1 = .error fault → Expected fault := by
  have hend := hwalk ⟨sink, {}, [], library⟩ hlibrary
  unfold Mustache.render
  rcases hrun : Walk.template finder depth [] (.ofRoot data) t ⟨sink, {}, [], library⟩ with
    ⟨result, p⟩
  rw [hrun] at hend
  refine ⟨(p.library_finish result).symm ▸ hend.1, p.expected_of_finish h fun fault hfault => ?_⟩
  subst hfault
  exact hend.2

end Mustache
