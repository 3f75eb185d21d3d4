import Mustache.Proofs.Render.Scoped
import Mustache.Proofs.Render.Simulation
import Mustache.Proofs.Scope.Steady
import Mustache.Proofs.Value.Alike

/-!
# Walks with two scopes

A rendering sees its data only through what it asks of them: the values of names, the items of
values, their texts. So it cannot tell two scopes apart that answer alike, and that go on doing so
when what they have answered is brought into them as frames.

`Walk.Twins` lists what has to be known of such scopes. What their answers have in common is left
open, and so is what is known of the memory; what follows depends on what answers alike.
-/

namespace Mustache

/-- A template, or one that it includes by way of others or at once, resolves a name somewhere. -/
def Template.Mentions (templates : List (String × Template)) (t : Template) (name : String) :
    Prop :=
  ∃ n, t.Reaches templates n ∧ n.name? = some name

/-- Looking up the names that a template mentions leaves a scope as it is: none of the names changes
a buffer, or there is no buffer in the scope. -/
def Template.Leaves (templates : List (String × Template)) (t : Template) (s : Scope) : Prop :=
  (∀ name, t.Mentions templates name → name ∉ Value.Buffer.changing) ∨
    s.All fun v => v.isFixed = true

/-- Two scopes that a template leaves as they are do so for one and the same reason. -/
theorem Template.Leaves.exists_steady {templates : List (String × Template)} {t : Template}
    {s s' : Scope} (h : t.Leaves templates s) (h' : t.Leaves templates s') :
    ∃ Q, Value.Steady (t.Mentions templates) Q ∧ s.All Q ∧ s'.All Q := by
  rcases h with hnames | hs
  · exact ⟨_, Value.steady_of_names hnames Value.closed_true, fun _ _ => trivial,
      fun _ _ => trivial⟩
  · rcases h' with hnames | hs'
    · exact ⟨_, Value.steady_of_names hnames Value.closed_true, fun _ _ => trivial,
        fun _ _ => trivial⟩
    · exact ⟨_, Value.steady_isFixed _, hs, hs'⟩

namespace Walk

variable {L L' α β γ : Type} {R : L → L' → Prop} {K : Memory → Prop}

/-! ## Walks side by side -/

/-- Two walks that have come to the same point end alike and come to the same point again, and what
is known of the memory stays true. -/
abbrev Parallel (R : L → L' → Prop) (K : Memory → Prop) (w : Walk L α) (v : Walk L' α) : Prop :=
  InStep (fun p q => p.Matches R q ∧ K p.memory) w v

/-- Nothing has to be known of a memory that stays as it is. -/
theorem Simulates.parallel {w : Walk L α} {v : Walk L' α} (h : Simulates R w v)
    (hmemory : ∀ p, (w p).2.memory = p.memory) : Parallel R K w v := by
  intro p q hpq
  obtain ⟨hresult, hafter⟩ := h p q hpq.1
  exact ⟨hresult, hafter, (hmemory p).symm ▸ hpq.2⟩

/-- Writing leaves the memory alone. -/
theorem memory_write (chunk : String) (p : Progress L) : (write chunk p).2.memory = p.memory := by
  unfold write
  cases p.sink.write chunk with
  | ok sink => rfl
  | error failure => rfl

/-- Looking for a partial goes in parallel for names that the two finders agree on. -/
theorem parallel_find {Asked : String → Prop} {Known : Template → Prop} {finder : Finder L}
    {finder' : Finder L'} (hfind : Agree R Asked Known finder finder') {name : String}
    (hname : Asked name) {f : Option Template → Walk L α} {g : Option Template → Walk L' α}
    (hnone : Parallel R K (f none) (g none))
    (hsome : ∀ t, Known t → Parallel R K (f (some t)) (g (some t))) :
    Parallel R K (find finder name >>= f) (find finder' name >>= g) := by
  have hstep : Parallel R K (find finder name) (find finder' name) :=
    (simulates_find_alone hfind hname).parallel fun _ => rfl
  refine InStep.bind_of hstep (fun found => ∀ t, found = some t → Known t) ?_ ?_
  · rintro p q _ ⟨hpq, -⟩ hfound t rfl
    exact hfind.known hname hpq.library hfound
  · intro found hfound
    cases found with
    | none => exact hnone
    | some t => exact hsome t (hfound t rfl)

/-- Scopes of different depths make no difference to the warnings. -/
theorem parallel_including (name : String) (depth depth' : Nat) :
    Parallel R K (tell (.including name depth)) (tell (.including name depth')) := by
  intro p q hpq
  have hnone : ∀ depth, Notice.warnings [.including name depth] = [] := fun _ => rfl
  refine ⟨rfl, { hpq.1 with warnings := ?_ }, hpq.2⟩
  simp only [tell, Notice.warnings_append, hnone, hpq.1.warnings]

/-! ## What is asked of the data -/

/-- Two ways of using the data end alike and leave the same behind. -/
structure Twinned (S : β → γ → Prop) (K : Memory → Prop) (x : Except Failure β × Memory)
    (y : Except Failure γ × Memory) : Prop where
  answers : EndsAlike S x.1 y.1
  memory : x.2 = y.2
  known : K x.2

/-- Scopes and values cannot be told apart by what a template asks of them, if it asks for certain
names. -/
structure Twins (Named : String → Prop) (T : Scope → Scope → Prop) (S : Value → Value → Prop)
    (K : Memory → Prop) : Prop where
  look : ∀ {s s' name m}, T s s' → Named name → K m →
    Twinned S K (s.look name m) (s'.look name m)
  items : ∀ {v w m}, S v w → K m →
    Twinned (Option.Rel (List.Forall₂ S)) K (Memory.items? v m) (Memory.items? w m)
  absent : ∀ {v w}, S v w → v.isAbsent = w.isAbsent
  shown : ∀ {v w}, S v w → ∀ escape, v.shown escape = w.shown escape
  push : ∀ {s s' v w}, T s s' → S v w → T (s.push v) (s'.push w)

/-- Asking the data goes in parallel if the answers are twins. -/
theorem parallel_consult {S : β → γ → Prop} {f : Memory → Except Failure β × Memory}
    {g : Memory → Except Failure γ × Memory} (h : ∀ {m}, K m → Twinned S K (f m) (g m))
    {next : β → Walk L α} {next' : γ → Walk L' α}
    (hnext : ∀ b c, S b c → Parallel R K (next b) (next' c)) :
    Parallel R K (consult f >>= next) (consult g >>= next') := by
  intro p q hpq
  obtain ⟨hanswers, hmemory, hknown⟩ := h hpq.2
  rw [bind_apply, bind_apply, consult_apply, consult_apply, ← hpq.1.memory]
  rcases hfm : f p.memory with ⟨result, m⟩
  rcases hgm : g p.memory with ⟨result', m'⟩
  rw [hfm, hgm] at hanswers hmemory
  rw [hfm] at hknown
  obtain rfl : m = m' := hmemory
  cases hanswers with
  | failed failure => exact ⟨rfl, { hpq.1 with memory := rfl }, hknown⟩
  | done hbc => exact hnext _ _ hbc _ _ ⟨{ hpq.1 with memory := rfl }, hknown⟩

/-! ## The walk over nodes -/

/-- Some nodes resolve certain names only, and so do those inside them and those of the templates
that two libraries give for them; the libraries answer alike. -/
structure Confined (R : L → L' → Prop) (Named : String → Prop) (Known : Node → Prop)
    (finder : Finder L) (finder' : Finder L') : Prop extends Node.Resolves Named Known where
  agree : Agree R (fun name => Known (.inclusion name)) (fun t => ∀ n ∈ t.nodes, Known n) finder
    finder'

/-- The nodes of a template and of those it includes resolve mentioned names only. -/
theorem confined_mentions (templates : List (String × Template)) (t : Template) :
    Confined (fun l l' => l = templates ∧ l' = templates) (t.Mentions templates)
      (t.Reaches templates) lookupFinder lookupFinder where
  name := fun hn hname => ⟨_, hn, hname⟩
  body := .inside
  agree :=
    { template := by
        rintro name l l' - ⟨rfl, rfl⟩
        rfl
      warnings := by
        rintro name l l' - ⟨rfl, rfl⟩
        rfl
      library := fun _ h => h
      known := by
        rintro name l l' u hname ⟨rfl, rfl⟩ hu n hn
        exact .included hname (Except.ok.inj hu) hn }

section
variable {Named : String → Prop} {Known : Node → Prop} {finder : Finder L} {finder' : Finder L'}
  {T : Scope → Scope → Prop} {S : Value → Value → Prop}

/-- What is done in scopes that answer alike goes on side by side. -/
theorem scopedCongruence_parallel (htwins : Twins Named T S K) :
    ScopedCongruence (fun {_} (w : Walk L _) (v : Walk L' _) => Parallel R K w v) Named T S where
  value := inStep_pure
  andThen := InStep.bind
  unsupported := inStep_throw .unsupportedNode
  chunk chunk := (simulates_write chunk).parallel (memory_write chunk)
  resolve hs hname hf := parallel_consult (htwins.look hs hname) hf
  items hvw hf := parallel_consult (htwins.items hvw) hf
  shown hvw escape := by
    rw [htwins.shown hvw]
    exact Simulates.parallel (congruence_simulates.ofExcept _) fun _ => rfl
  absent := htwins.absent
  push := htwins.push

/-- An inclusion goes in parallel if entering its template does. -/
theorem parallel_inclusion (hknown : Confined R Named Known finder finder')
    {enter : Scope → Template → Walk L Unit} {enter' : Scope → Template → Walk L' Unit}
    (henter : EntersRelated (fun {_} w v => Parallel R K w v) T Known enter enter') {name : String}
    {s s' : Scope} (hname : Known (.inclusion name)) (hs : T s s') :
    Parallel R K (node finder enter s (.inclusion name))
      (node finder' enter' s' (.inclusion name)) := by
  refine parallel_find hknown.agree hname (inStep_pure ()) fun t ht => ?_
  exact (parallel_including name s.depth s'.depth).bind fun _ => henter hs ht

/-- A template cannot tell scopes apart that answer alike for the names it mentions. -/
theorem parallel_template (htwins : Twins Named T S K)
    (hknown : Confined R Named Known finder finder') (depth : Nat) (active : List String) :
    EntersRelated (fun {_} w v => Parallel R K w v) T Known (template finder depth active)
      (template finder' depth active) :=
  (scopedCongruence_parallel htwins).template finder finder' hknown.toResolves
    (fun _ => inStep_throw _) (inStep_throw .exhausted) (parallel_inclusion hknown) depth active

/-- Nodes cannot tell scopes apart that answer alike for the names they resolve. -/
theorem parallel_nodes (htwins : Twins Named T S K) (hknown : Confined R Named Known finder finder')
    (depth : Nat) (active : List String) {body : List Node} (hbody : ∀ n ∈ body, Known n)
    {s s' : Scope} (hs : T s s') :
    Parallel R K (nodes finder (template finder depth active) s body)
      (nodes finder' (template finder' depth active) s' body) :=
  (scopedCongruence_parallel htwins).nodes finder finder' _ _ hknown.toResolves
    (parallel_inclusion hknown (parallel_template htwins hknown depth active)) body hbody hs

end

end Walk

/-- A rendering cannot tell data apart that answer alike for the names that the template
mentions. -/
theorem render_matches_of_twins {L L' : Type} {R : L → L' → Prop} {K : Memory → Prop}
    {Named : String → Prop} {Known : Node → Prop} {T : Scope → Scope → Prop}
    {S : Value → Value → Prop} (htwins : Walk.Twins Named T S K) {finder : Finder L}
    {finder' : Finder L'} (hknown : Walk.Confined R Named Known finder finder') {v w : Value}
    (h : T (.ofRoot v) (.ofRoot w)) (hstart : K {}) {t : Template} (ht : ∀ n ∈ t.nodes, Known n)
    (depth : Nat) (sink : Sink) {l : L} {l' : L'} (hl : R l l') :
    (render finder depth t v sink l).1 = (render finder' depth t w sink l').1 ∧
      (render finder depth t v sink l).2.Matches R (render finder' depth t w sink l').2 := by
  have hwalk := Walk.parallel_template htwins hknown depth [] h ht
  obtain ⟨hresult, hafter, -⟩ :=
    hwalk ⟨sink, {}, [], l⟩ ⟨sink, {}, [], l'⟩ ⟨⟨rfl, rfl, rfl, hl⟩, hstart⟩
  exact hafter.finish hresult

end Mustache
