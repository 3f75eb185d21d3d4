import Mustache.Proofs.Render.Chain
import Mustache.Proofs.Render.InStep

/-!
# Walks over two libraries

A walk touches its library only where it looks up an included template. So two walks over the same
nodes agree as soon as their libraries answer alike: they write the same chunks, warn in the same
words and end in the same way, and the libraries are related afterwards as they were before.

`Progress.Matches` relates the progress of two walks and `Walk.Simulates` lifts it to walks, where
it composes. What is known of the templates that can be found is a parameter of `Agree`, so that the
walks of included templates need to agree on those alone.
-/

namespace Mustache

variable {L L' : Type}

/-- Two walks have come to the same point: the same sink, the same memory, the same warnings, and
related libraries. -/
structure Progress.Matches (R : L → L' → Prop) (p : Progress L) (q : Progress L') : Prop where
  sink : p.sink = q.sink
  memory : p.memory = q.memory
  warnings : Notice.warnings p.notices = Notice.warnings q.notices
  library : R p.library q.library

theorem Notice.warnings_append (some more : List Notice) :
    Notice.warnings (some ++ more) = Notice.warnings some ++ Notice.warnings more := by
  simp [Notice.warnings]

/-- Related libraries do not part the two sides. -/
theorem Progress.couples_matches (R : L → L' → Prop) : Progress.Couples (Progress.Matches R) where
  sink := Matches.sink
  memory := Matches.memory
  setSink h _ _ := { h with sink := rfl }
  setMemory h _ := { h with memory := rfl }

namespace Walk

variable {α β : Type} {R : L → L' → Prop}

/-- The walks end alike and keep what relates their progress. -/
def Simulates (R : L → L' → Prop) (w : Walk L α) (v : Walk L' α) : Prop :=
  ∀ p q, p.Matches R q → (w p).1 = (v q).1 ∧ (w p).2.Matches R (v q).2

/-! ## How walks are put together -/

theorem Simulates.bind {w : Walk L α} {v : Walk L' α} {f : α → Walk L β} {g : α → Walk L' β}
    (h : Simulates R w v) (hf : ∀ a, Simulates R (f a) (g a)) :
    Simulates R (w >>= f) (v >>= g) := InStep.bind h hf

theorem simulates_pure (a : α) : Simulates R (pure a : Walk L α) (pure a) := inStep_pure a

theorem simulates_throw (fault : Fault) : Simulates R (throw fault : Walk L α) (throw fault) :=
  inStep_throw fault

/-! ## What a walk does without its library -/

theorem simulates_write (chunk : String) : Simulates R (write chunk) (write chunk) :=
  inStep_write (Progress.couples_matches R) chunk

theorem simulates_tell (notice : Notice) : Simulates R (tell notice) (tell notice) := by
  intro p q hpq
  refine ⟨rfl, { hpq with warnings := ?_ }⟩
  simp only [tell, Notice.warnings_append, hpq.warnings]

/-- All that a rendering is put together from but the finder is simulated. -/
theorem congruence_simulates :
    Congruence fun {_} (w : Walk L _) (v : Walk L' _) => Simulates R w v :=
  congruence_inStep (Progress.couples_matches R)

/-! ## The walk over nodes -/

/-- Two libraries answer alike when asked for certain names, and all that they give is known. -/
structure Agree (R : L → L' → Prop) (Asked : String → Prop) (Known : Template → Prop)
    (finder : Finder L) (finder' : Finder L') : Prop where
  template : ∀ {name l l'}, Asked name → R l l' →
    (finder name l).template = (finder' name l').template
  warnings : ∀ {name l l'}, Asked name → R l l' →
    Notice.warnings (finder name l).notices = Notice.warnings (finder' name l').notices
  library : ∀ {name l l'}, Asked name → R l l' →
    R (finder name l).library (finder' name l').library
  known : ∀ {name l l' t}, Asked name → R l l' → (finder name l).template = .ok (some t) → Known t

section
variable {Asked : String → Prop} {Known : Template → Prop} {finder : Finder L}
  {finder' : Finder L'} {enter : Scope → Template → Walk L Unit}
  {enter' : Scope → Template → Walk L' Unit}

/-- Finding is simulated for names that the two finders agree on. -/
theorem simulates_find_alone (hfind : Agree R Asked Known finder finder') {name : String}
    (hname : Asked name) : Simulates R (find finder name) (find finder' name) := by
  intro p q hpq
  refine ⟨hfind.template hname hpq.library, hpq.sink, hpq.memory, ?_,
    hfind.library hname hpq.library⟩
  simp only [find, Notice.warnings_append, hpq.warnings, hfind.warnings hname hpq.library]

/-- What is found is entered; both walks find the same. -/
theorem simulates_find (hfind : Agree R Asked Known finder finder') {name : String}
    (hname : Asked name) {f : Option Template → Walk L α} {g : Option Template → Walk L' α}
    (hnone : Simulates R (f none) (g none))
    (hsome : ∀ t, Known t → Simulates R (f (some t)) (g (some t))) :
    Simulates R (find finder name >>= f) (find finder' name >>= g) := by
  refine InStep.bind_of (simulates_find_alone hfind hname)
    (fun found => ∀ t, found = some t → Known t) ?_ ?_
  · rintro p q _ hpq hfound t rfl
    exact hfind.known hname hpq.library hfound
  · intro found hfound
    cases found with
    | none => exact hnone
    | some t => exact hsome t (hfound t rfl)

/-- Walking nodes simulates walking them with the other library. -/
theorem simulates_nodes (hfind : Agree R Asked Known finder finder')
    (henter : ∀ scope t, Known t → Simulates R (enter scope t) (enter' scope t)) (scope : Scope)
    (body : List Node) (hbody : ∀ name ∈ Node.allInclusions body, Asked name) :
    Simulates R (nodes finder enter scope body) (nodes finder' enter' scope body) := by
  refine congruence_simulates.nodes _ _ _ _ body (fun name hname scope => ?_) scope
  refine simulates_find hfind (hbody name hname) (simulates_pure ()) fun t ht => ?_
  exact (simulates_tell _).bind fun _ => henter scope t ht

end

/-! ## The walk over templates -/

/-- Walks of templates agree however deep they may go, if both may go as deep as there are keys:
the keys of the templates being walked are all different, so there are never more of them. -/
theorem simulates_template {Asked : String → Prop} {Known : Template → Prop} {keys : List String}
    {finder : Finder L} {finder' : Finder L'} (hfind : Agree R Asked Known finder finder')
    (hkey : ∀ t, Known t → t.key ∈ keys)
    (hasked : ∀ t, Known t → ∀ name ∈ Node.allInclusions t.nodes, Asked name)
    {m n : Nat} {active : List String} (hchain : Chain keys active)
    (hm : keys.length ≤ m + active.length) (hn : keys.length ≤ n + active.length)
    (scope : Scope) (t : Template) (ht : Known t) :
    Simulates R (template finder m active scope t) (template finder' n active scope t) := by
  induction m generalizing n active scope t with
  | zero =>
    unfold template
    by_cases hmem : t.key ∈ active
    · rw [if_pos hmem, if_pos hmem]
      exact simulates_throw _
    · -- the depth is used up only when all keys are in the chain
      have hlt := hchain.length_lt (hkey t ht) hmem
      omega
  | succ m ih =>
    unfold template
    by_cases hmem : t.key ∈ active
    · rw [if_pos hmem, if_pos hmem]
      exact simulates_throw _
    · have hlt := hchain.length_lt (hkey t ht) hmem
      obtain ⟨n, rfl⟩ : ∃ k, n = k + 1 := ⟨n - 1, by omega⟩
      rw [if_neg hmem, if_neg hmem]
      refine simulates_nodes hfind (fun scope u hu => ?_) scope t.nodes (hasked t ht)
      exact ih (hchain.enter (hkey t ht) hmem) (Chain.depth_enter hm t.key)
        (Chain.depth_enter hn t.key) scope u hu

end Walk

/-- The end of a rendering keeps two walks together. -/
theorem Progress.Matches.finish {R : L → L' → Prop} {p : Progress L} {q : Progress L'}
    (h : p.Matches R q) {result result' : Except Fault Unit} (hresult : result = result') :
    (p.finish result).1 = (q.finish result').1 ∧
      (p.finish result).2.Matches R (q.finish result').2 := by
  subst hresult
  obtain ⟨sink, told, -, -, hend, hp, hq⟩ := Progress.finish_eq h.sink result
  refine ⟨hend, ?_⟩
  rw [hp, hq]
  refine { h with sink := rfl, warnings := ?_ }
  simp only [Notice.warnings_append, h.warnings]

/-- A rendering does not depend on the depth it is allowed once that covers all keys, nor on more
of the library than its answers. -/
theorem render_matches {R : L → L' → Prop} {Asked : String → Prop} {Known : Template → Prop}
    {keys : List String} {finder : Finder L} {finder' : Finder L'}
    (hfind : Walk.Agree R Asked Known finder finder')
    (hkey : ∀ t, Known t → t.key ∈ keys)
    (hasked : ∀ t, Known t → ∀ name ∈ Node.allInclusions t.nodes, Asked name)
    {m n : Nat} (hm : keys.length ≤ m) (hn : keys.length ≤ n) {t : Template} (ht : Known t)
    (data : Value) (sink : Sink) {l : L} {l' : L'} (hl : R l l') :
    (render finder m t data sink l).1 = (render finder' n t data sink l').1 ∧
      (render finder m t data sink l).2.Matches R (render finder' n t data sink l').2 := by
  have hwalk := Walk.simulates_template hfind hkey hasked (Chain.nil keys) hm hn (.ofRoot data) t
    ht
  obtain ⟨hresult, hafter⟩ := hwalk ⟨sink, {}, [], l⟩ ⟨sink, {}, [], l'⟩ ⟨rfl, rfl, rfl, hl⟩
  exact hafter.finish hresult

end Mustache
