import Mustache.Proofs.Render.Chain
import Mustache.Proofs.Render.Ending
import Mustache.Proofs.Render.InStep

/-!
# Renderings that ask for the same names

A rendering depends on how templates are looked up only through what it is given for the names that
it asks for. So two ways of looking them up that agree on these names make equal renderings. It is
enough to know the names that one of the two asks for: as long as they are given the same, they ask
for the same. The walk that writes the names down is followed by the other one.
-/

namespace Mustache

variable {L : Type}

/-- A progress with names written down is the record of one other. -/
theorem Progress.Records.unique {p : Progress (L × List String)} {q r : Progress L}
    (hq : p.Records q) (hr : p.Records r) : q = r := by
  obtain ⟨sink, memory, notices, library⟩ := q
  obtain ⟨rfl, rfl, rfl, rfl⟩ := hq
  obtain ⟨sink, memory, notices, library⟩ := r
  obtain ⟨rfl, rfl, rfl, rfl⟩ := hr
  rfl

namespace Walk

variable {α β : Type}

/-- The names that were written down are kept. -/
def KeepsNames (w : Walk (L × List String) α) : Prop := ∀ p, p.library.2 ⊆ (w p).2.library.2

/-- The second walk ends as the first one, with the same progress, if the first one has written down
good names only. -/
structure Follows (Good : String → Prop) (Kind : L → Prop) (w : Walk (L × List String) α)
    (v : Walk L α) : Prop where
  keeps : KeepsNames w
  same : ∀ p q, p.Records q → Kind q.library → (∀ name ∈ (w p).2.library.2, Good name) →
    (w p).1 = (v q).1 ∧ (w p).2.Records (v q).2 ∧ Kind (v q).2.library

variable {Good : String → Prop} {Kind : L → Prop}

theorem KeepsNames.bind {w : Walk (L × List String) α} {f : α → Walk (L × List String) β}
    (h : KeepsNames w) (hf : ∀ a, KeepsNames (f a)) : KeepsNames (w >>= f) := by
  intro p
  have hw := h p
  rw [bind_apply]
  rcases hwp : w p with ⟨result, p'⟩
  rw [hwp] at hw
  cases result with
  | error fault => exact hw
  | ok a => exact List.Subset.trans hw (hf a p')

/-- What comes next needs to be followed only after results that the second walk can have. -/
theorem Follows.bind_of {w : Walk (L × List String) α} {v : Walk L α}
    {f : α → Walk (L × List String) β} {g : α → Walk L β} (h : Follows Good Kind w v)
    (Known : α → Prop)
    (hknown : ∀ p q a, p.Records q → Kind q.library → (∀ name ∈ (w p).2.library.2, Good name) →
      (v q).1 = .ok a → Known a)
    (hkeeps : ∀ a, KeepsNames (f a)) (hf : ∀ a, Known a → Follows Good Kind (f a) (g a)) :
    Follows Good Kind (w >>= f) (v >>= g) where
  keeps := h.keeps.bind hkeeps
  same p q hpq hq hgood := by
    have hw := h.same p q hpq hq
    have ha := fun a => hknown p q a hpq hq
    rw [bind_apply] at hgood ⊢
    rw [bind_apply]
    rcases hwp : w p with ⟨result, p'⟩
    rcases hvq : v q with ⟨result', q'⟩
    rw [hwp, hvq] at hw
    rw [hwp] at hgood
    rw [hwp, hvq] at ha
    cases result with
    | error fault =>
      obtain ⟨hresult, hafter⟩ := hw hgood
      obtain rfl : .error fault = result' := hresult
      exact ⟨rfl, hafter⟩
    | ok a =>
      -- the names of the first part are among those of the whole
      have hfirst : ∀ name ∈ p'.library.2, Good name := fun name hname =>
        hgood name (hkeeps a p' hname)
      obtain ⟨hresult, hafter, hkind⟩ := hw hfirst
      obtain rfl : .ok a = result' := hresult
      exact (hf a (ha a hfirst rfl)).same p' q' hafter hkind hgood

/-- What goes on from the same answer follows as long as all names asked for so far were good. -/
theorem Follows.bind {w : Walk (L × List String) α} {v : Walk L α}
    {f : α → Walk (L × List String) β} {g : α → Walk L β} (h : Follows Good Kind w v)
    (hf : ∀ a, Follows Good Kind (f a) (g a)) : Follows Good Kind (w >>= f) (v >>= g) :=
  h.bind_of (fun _ => True) (fun _ _ _ _ _ _ _ => trivial) (fun a => (hf a).keeps) fun a _ => hf a

/-- A walk that goes in step with another one and keeps what is written down is followed by it. -/
theorem follows_of_records {w : Walk (L × List String) α} {v : Walk L α}
    (h : InStep Progress.Records w v) (hkeeps : KeepsNames w)
    (hkind : ∀ q, Kind q.library → Kind (v q).2.library) : Follows Good Kind w v :=
  ⟨hkeeps, fun p q hpq hq _ => ⟨(h p q hpq).1, (h p q hpq).2, hkind q hq⟩⟩

theorem follows_pure (a : α) :
    Follows Good Kind (pure a : Walk (L × List String) α) (pure a) :=
  follows_of_records (inStep_pure a) (fun _ => List.Subset.refl _) fun _ h => h

theorem follows_throw (fault : Fault) :
    Follows Good Kind (throw fault : Walk (L × List String) α) (throw fault) :=
  follows_of_records (inStep_throw fault) (fun _ => List.Subset.refl _) fun _ h => h

theorem keepsNames_tell (notice : Notice) :
    KeepsNames (tell notice : Walk (L × List String) Unit) :=
  fun _ => List.Subset.refl _

theorem follows_tell (notice : Notice) :
    Follows Good Kind (tell notice : Walk (L × List String) Unit) (tell notice) :=
  follows_of_records (inStep_recording_tell notice) (keepsNames_tell notice) fun _ h => h

theorem library_write {L : Type} (chunk : String) (p : Progress L) :
    (write chunk p).2.library = p.library := by
  unfold write
  cases p.sink.write chunk with
  | ok sink => rfl
  | error failure => rfl

/-- Everything that a rendering is put together from but the finder asks for no name. -/
theorem congruence_follows :
    Congruence fun {_} (w : Walk (L × List String) _) (v : Walk L _) => Follows Good Kind w v where
  value := follows_pure
  andThen := Follows.bind
  consult f := follows_of_records (inStep_consult Progress.couples_records f)
    (fun _ => List.Subset.refl _) fun _ h => h
  unsupported := follows_throw .unsupportedNode
  chunk chunk := follows_of_records (inStep_write Progress.couples_records chunk)
    (fun p => by rw [library_write]; exact List.Subset.refl _)
    fun q h => by rwa [library_write]

/-! ## Looking templates up -/

variable {finder finder' : Finder L}

theorem keepsNames_find (name : String) : KeepsNames (find finder.recording name) :=
  fun p => List.subset_append_left p.library.2 [name]

section
variable (hsame : ∀ name, Good name → finder name = finder' name)
  (hkind : ∀ name l, Kind l → Kind (finder' name l).library)
include hsame hkind

/-- Looking for a partial under a good name is followed, and afterwards the name is recorded. -/
theorem follows_find (name : String) :
    Follows Good Kind (find finder.recording name) (find finder' name) where
  keeps := keepsNames_find name
  same p q hpq hq hgood := by
    have hname : Good name := hgood name (List.mem_append_right p.library.2 List.mem_cons_self)
    have heq : find finder name = find finder' name := by
      unfold find
      rw [hsame name hname]
    have hfind : InStep Progress.Records (find finder.recording name) (find finder' name) :=
      heq ▸ inStep_recording_find name
    obtain ⟨hresult, hafter⟩ := hfind p q hpq
    exact ⟨hresult, hafter, hkind name q.library hq⟩

omit hsame hkind in
/-- A whole rendering keeps all names that it records. -/
theorem keepsNames_template (depth : Nat) (active : List String) (scope : Scope) (t : Template) :
    KeepsNames (template finder.recording depth active scope t) := by
  have hfollows : Follows (fun _ => True) (fun _ => True)
      (template finder.recording depth active scope t) (template finder depth active scope t) :=
    congruence_follows.template _ _ (fun _ => follows_throw _) (follows_throw _)
      (follows_find (fun _ _ => rfl) fun _ _ _ => trivial) follows_tell depth active scope t
  exact hfollows.keeps

/-- What is done with a template that is found has to be followed only where it can be found. -/
theorem follows_find_bind {name : String} {f : Option Template → Walk (L × List String) α}
    {g : Option Template → Walk L α} (hnone : Follows Good Kind (f none) (g none))
    (hkeeps : ∀ t, KeepsNames (f (some t)))
    (hsome : ∀ t l, Good name → Kind l → (finder' name l).template = .ok (some t) →
      Follows Good Kind (f (some t)) (g (some t))) :
    Follows Good Kind (find finder.recording name >>= f) (find finder' name >>= g) := by
  refine (follows_find hsame hkind name).bind_of
    (fun found => ∀ t, found = some t → Follows Good Kind (f (some t)) (g (some t))) ?_ ?_ ?_
  · rintro p q _ hpq hq hgood hfound t rfl
    have hname : Good name := hgood name (List.mem_append_right p.library.2 List.mem_cons_self)
    exact hsome t q.library hname hq hfound
  · intro found
    cases found with
    | none => exact hnone.keeps
    | some t => exact hkeeps t
  · intro found hfound
    cases found with
    | none => exact hnone
    | some t => exact hfound t rfl

/-- Walks over a template are followed however deep they may go, if both may go as deep as there are
keys. -/
theorem follows_template {Known : Template → Prop} {keys : List String}
    (hkey : ∀ t, Known t → t.key ∈ keys)
    (hknown : ∀ t name l u, Known t → name ∈ Node.allInclusions t.nodes → Good name → Kind l →
      (finder' name l).template = .ok (some u) → Known u)
    {m n : Nat} {active : List String} (hchain : Chain keys active)
    (hm : keys.length ≤ m + active.length) (hn : keys.length ≤ n + active.length)
    (scope : Scope) (t : Template) (ht : Known t) :
    Follows Good Kind (template finder.recording m active scope t)
      (template finder' n active scope t) := by
  induction m generalizing n active scope t with
  -- no depth is left, and so no key that is not active already
  | zero =>
    unfold template
    by_cases hmem : t.key ∈ active
    · rw [if_pos hmem, if_pos hmem]
      exact follows_throw _
    · have hlt := hchain.length_lt (hkey t ht) hmem
      omega
  | succ m ih =>
    unfold template
    by_cases hmem : t.key ∈ active
    · rw [if_pos hmem, if_pos hmem]
      exact follows_throw _
    · have hlt := hchain.length_lt (hkey t ht) hmem
      obtain ⟨n, rfl⟩ : ∃ k, n = k + 1 := ⟨n - 1, by omega⟩
      rw [if_neg hmem, if_neg hmem]
      -- inside the template only inclusions ask, and they ask for good names
      refine congruence_follows.nodes _ _ _ _ t.nodes (fun name hname scope => ?_) scope
      refine follows_find_bind hsame hkind (follows_pure ()) (fun u => ?_) fun u l hgood hl hu => ?_
      · exact (keepsNames_tell _).bind fun _ => keepsNames_template m _ scope u
      · have hknownU : Known u := hknown t name l u ht hname hgood hl hu
        exact (follows_tell _).bind fun _ => ih (hchain.enter (hkey t ht) hmem)
          (Chain.depth_enter hm t.key) (Chain.depth_enter hn t.key) scope u hknownU

end

end Walk

/-- A rendering is what it would be with another way of looking templates up if both give the same
for the names that it asks for, and the depth covers the keys of all templates that may be found. -/
theorem render_eq_of_asked {finder finder' : Finder L} {Good : String → Prop} {Kind : L → Prop}
    {Known : Template → Prop} {keys : List String}
    (hsame : ∀ name, Good name → finder name = finder' name)
    (hkind : ∀ name l, Kind l → Kind (finder' name l).library)
    (hkey : ∀ t, Known t → t.key ∈ keys)
    (hknown : ∀ t name l u, Known t → name ∈ Node.allInclusions t.nodes → Good name → Kind l →
      (finder' name l).template = .ok (some u) → Known u)
    {m n : Nat} (hm : keys.length ≤ m) (hn : keys.length ≤ n) {t : Template} (ht : Known t)
    (data : Value) (sink : Sink) {library : L} (hlibrary : Kind library)
    (hgood : ∀ name ∈ (render finder.recording m t data sink (library, [])).2.library.2,
      Good name) :
    render finder m t data sink library = render finder' n t data sink library := by
  have hwalk := Walk.follows_template hsame hkind hkey hknown (Chain.nil keys) hm hn (.ofRoot data)
    t ht
  have hstart : Progress.Records ⟨sink, {}, [], (library, [])⟩ ⟨sink, {}, [], library⟩ :=
    ⟨rfl, rfl, rfl, rfl⟩
  have hrecording : Walk.InStep Progress.Records
      (Walk.template finder.recording m [] (.ofRoot data) t)
      (Walk.template finder m [] (.ofRoot data) t) := Walk.inStep_recording m [] _ t
  have hself := hrecording _ _ hstart
  rw [render_eq_finish, Progress.library_finish] at hgood
  obtain ⟨hresult, hafter, -⟩ := hwalk.same _ _ hstart hlibrary hgood
  rw [render_eq_finish, render_eq_finish, ← hself.1, ← hresult]
  -- the progress without the names is the same on both sides
  have hprogress := hself.2.unique hafter
  rw [hprogress]

end Mustache
