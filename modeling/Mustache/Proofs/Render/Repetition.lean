import Mustache.Proofs.Render.Complement
import Mustache.Proofs.Render.Scoped

/-!
# Walks that come out the same again

A walk leaves nothing behind for the walk after it but the chunks in the sink, what it has done to
the data and what the library remembers. Where no frame of the scope has a stream, where looking
names up changes no buffer and where the library gives each name one answer, all of that makes no
difference: with the data as they are by now, the walk writes the same chunks and comes to the same
result wherever it starts, as long as the sink takes everything.
-/

namespace Mustache

variable {L α β : Type}

/-! ## Libraries with settled answers -/

/-- A library of some kind has one answer for each name, whatever it has been asked before. -/
structure Finder.Answers (finder : Finder L) (answer : String → Except Fault (Option Template))
    (Kind : L → Prop) : Prop where
  template : ∀ {library}, Kind library → ∀ name, (finder name library).template = answer name
  library : ∀ {library}, Kind library → ∀ name, Kind (finder name library).library

/-- A list answers with what it has, and does not change. -/
theorem answers_lookupFinder (templates : List (String × Template)) :
    lookupFinder.Answers (fun name => .ok (templates.lookup name)) (· = templates) := by
  constructor
  · rintro library rfl name
    rfl
  · rintro library rfl name
    rfl

/-- Some nodes resolve certain names only, and so do those inside them and those of the templates
that are answered for them. -/
structure Node.Keeps (answer : String → Except Fault (Option Template)) (Named : String → Prop)
    (Known : Node → Prop) : Prop extends Node.Resolves Named Known where
  found : ∀ {name t}, Known (.inclusion name) → answer name = .ok (some t) → ∀ n ∈ t.nodes, Known n

/-- A node among some nodes, inside one of them, or of a template that is answered for an inclusion
there. -/
inductive Node.Within (answer : String → Except Fault (Option Template)) (body : List Node) :
    Node → Prop
  | own {n : Node} (h : n ∈ body) : Within answer body n
  | inside {inverted : Bool} {name : String} {inner : List Node} {n : Node}
      (hblock : Within answer body (.block inverted name inner)) (h : n ∈ inner) :
      Within answer body n
  | included {name : String} {t : Template} {n : Node}
      (hname : Within answer body (.inclusion name)) (ht : answer name = .ok (some t))
      (h : n ∈ t.nodes) : Within answer body n

/-- Some nodes, or what they include, resolve a name somewhere. -/
def Node.Mentioned (answer : String → Except Fault (Option Template)) (body : List Node)
    (name : String) : Prop :=
  ∃ n, Within answer body n ∧ n.name? = some name

/-- The names that nodes mention are all that they and what they include resolve. -/
theorem Node.keeps_mentioned (answer : String → Except Fault (Option Template)) (body : List Node) :
    Keeps answer (Mentioned answer body) (Within answer body) where
  name hn hname := ⟨_, hn, hname⟩
  body := .inside
  found hname ht _ hn := .included hname ht hn

/-- Asking for the items of a value without streams changes nothing. -/
theorem Value.readItems_of_isLasting {v : Value} (h : v.isLasting = true) (m : Memory) :
    Memory.items? v m = (v.items?, m) := by
  cases v with
  | stream => cases h
  | _ => rfl

namespace Walk

variable {Kind : L → Prop} {m : Memory} {w : Walk L α} {f : α → Walk L β}

/-! ## Walks that repeat -/

/-- The library is of some kind, the sink takes everything, and so much has been done to the
data. -/
structure Settled (Kind : L → Prop) (m : Memory) (p : Progress L) : Prop where
  library : Kind p.library
  capacity : p.sink.capacity = none
  memory : p.memory = m

/-- Wherever it starts, with a library of some kind, a sink that takes everything and so much done
to the data, a walk writes certain chunks and comes to a certain result, and leaves it at that. -/
def ComesTo (Kind : L → Prop) (m : Memory) (w : Walk L α) (chunks : List String)
    (result : Except Fault α) : Prop :=
  ∀ p, Settled Kind m p →
    (w p).1 = result ∧ (w p).2.sink = (p.wrote chunks).sink ∧ (w p).2.memory = m ∧
      Kind (w p).2.library

theorem Settled.of_after {p q : Progress L} (hp : Settled Kind m p) {chunks : List String}
    (hsink : q.sink = (p.wrote chunks).sink) (hmemory : q.memory = m) (hkind : Kind q.library) :
    Settled Kind m q :=
  ⟨hkind, by rw [hsink]; exact hp.capacity, hmemory⟩

/-- A walk comes out the same wherever it starts. -/
def Repeats (Kind : L → Prop) (m : Memory) (w : Walk L α) : Prop :=
  ∃ chunks result, ComesTo Kind m w chunks result

theorem ComesTo.bind_error {chunks : List String} {fault : Fault}
    (h : ComesTo Kind m w chunks (.error fault)) (f : α → Walk L β) :
    ComesTo Kind m (w >>= f) chunks (.error fault) := by
  intro p hp
  obtain ⟨hresult, hafter⟩ := h p hp
  rcases hrun : w p with ⟨result, q⟩
  rw [hrun] at hresult hafter
  obtain rfl : result = .error fault := hresult
  rw [bind_apply, hrun]
  exact ⟨rfl, hafter⟩

/-- What goes on from an answer writes behind it. -/
theorem ComesTo.bind_ok {chunks more : List String} {a : α} {result : Except Fault β}
    (h : ComesTo Kind m w chunks (.ok a)) (hf : ComesTo Kind m (f a) more result) :
    ComesTo Kind m (w >>= f) (chunks ++ more) result := by
  intro p hp
  obtain ⟨hresult, hsink, hmemory, hkind⟩ := h p hp
  rcases hrun : w p with ⟨result', q⟩
  rw [hrun] at hresult hsink hmemory hkind
  obtain rfl : result' = .ok a := hresult
  have hsink : q.sink = (p.wrote chunks).sink := hsink
  obtain ⟨hend, hsink', hmemory', hkind'⟩ := hf q (hp.of_after hsink hmemory hkind)
  rw [bind_apply, hrun]
  refine ⟨hend, ?_, hmemory', hkind'⟩
  rw [hsink', ← wrote_wrote]
  simp only [Progress.wrote, hsink]

theorem Repeats.bind (h : Repeats Kind m w) (hf : ∀ a, Repeats Kind m (f a)) :
    Repeats Kind m (w >>= f) := by
  obtain ⟨chunks, result, hw⟩ := h
  cases result with
  | error fault => exact ⟨chunks, .error fault, hw.bind_error f⟩
  | ok a =>
    obtain ⟨more, result, hmore⟩ := hf a
    exact ⟨chunks ++ more, result, hw.bind_ok hmore⟩

theorem repeats_pure (a : α) : Repeats Kind m (pure a : Walk L α) :=
  ⟨[], .ok a, fun _ hp => ⟨rfl, rfl, hp.memory, hp.library⟩⟩

theorem repeats_throw (fault : Fault) : Repeats Kind m (throw fault : Walk L α) :=
  ⟨[], .error fault, fun _ hp => ⟨rfl, rfl, hp.memory, hp.library⟩⟩

theorem repeats_tell (notice : Notice) : Repeats Kind m (tell notice : Walk L Unit) :=
  ⟨[], .ok (), fun _ hp => ⟨rfl, rfl, hp.memory, hp.library⟩⟩

theorem repeats_write (chunk : String) : Repeats Kind m (write chunk : Walk L Unit) := by
  refine ⟨[chunk], .ok (), fun p hp => ?_⟩
  rw [write_apply hp.capacity]
  exact ⟨rfl, rfl, hp.memory, hp.library⟩

/-- Looking for a partial comes to the same each time, for the finder answers the same. -/
theorem repeats_find {finder : Finder L} {answer : String → Except Fault (Option Template)}
    (h : finder.Answers answer Kind) (name : String)
    {f : Option Template → Walk L α} (hf : ∀ t, answer name = .ok t → Repeats Kind m (f t)) :
    Repeats Kind m (find finder name >>= f) := by
  have hfind : ComesTo Kind m (find finder name) [] (answer name) := fun _ hp =>
    ⟨h.template hp.library name, rfl, hp.memory, h.library hp.library name⟩
  cases hanswer : answer name with
  | error fault =>
    rw [hanswer] at hfind
    exact ⟨[], .error fault, hfind.bind_error f⟩
  | ok t =>
    rw [hanswer] at hfind
    obtain ⟨more, result, hmore⟩ := hf t hanswer
    exact ⟨[] ++ more, result, hfind.bind_ok hmore⟩

/-- Asking something of the data that does nothing to them has one answer. -/
theorem repeats_consult {g : Memory → Except Failure α × Memory} {x : Except Failure α}
    (h : g m = (x, m)) (hf : ∀ a, x = .ok a → Repeats Kind m (f a)) :
    Repeats Kind m (consult g >>= f) := by
  have hrecall : ComesTo Kind m (consult g) [] (x.mapError .failure) := fun p hp => by
    rw [consult_apply, hp.memory, h]
    exact ⟨rfl, rfl, rfl, hp.library⟩
  cases x with
  | error failure => exact ⟨[], .error (.failure failure), hrecall.bind_error f⟩
  | ok a =>
    obtain ⟨more, result, hmore⟩ := hf a rfl
    exact ⟨[] ++ more, result, hrecall.bind_ok hmore⟩

/-! ## Nodes and templates in scopes that stay as they are -/

section
variable {finder : Finder L} {answer : String → Except Fault (Option Template)}
  {Named : String → Prop} {Known : Node → Prop} {Q : Value → Prop}

/-- What is done in a scope that stays as it is comes out the same again. -/
theorem scopedCongruence_repeats (hsteady : Value.Steady Named Q)
    (hlasting : ∀ v, Q v → v.isLasting = true) :
    ScopedCongruence (fun {_} (w : Walk L _) (_ : Walk L _) => Repeats Kind m w) Named (SameScopes Q)
      (SameValues Q) where
  value := repeats_pure
  andThen := Repeats.bind
  unsupported := repeats_throw .unsupportedNode
  chunk := repeats_write
  -- a look-up in a steady scope changes no buffer, so it is the same again
  resolve := by
    rintro α s _ name f g ⟨rfl, hs⟩ hname hf
    have hsame : (s.look name m).2 = m := Scope.snd_lookFrom_of_steady hsteady hs hname _ m
    exact repeats_consult (Prod.ext rfl hsame) fun v hv =>
      hf v v ⟨rfl, hs.look hsteady.toClosed hv⟩
  items := by
    rintro α v _ f g ⟨rfl, hv⟩ hf
    refine repeats_consult (Value.readItems_of_isLasting (hlasting v hv) m)
      fun items hitems => hf items items (rel_sameValues ?_)
    rintro items rfl
    exact hsteady.item hv hitems
  shown := by
    rintro v _ ⟨rfl, -⟩ escape
    have hshown : Repeats Kind m
        (ofExcept (v.shown escape) >>= fun shown => (pure shown : Walk L _)) :=
      repeats_consult rfl fun shown _ => repeats_pure shown
    rwa [bind_pure] at hshown
  absent := fun hvw => by rw [hvw.1]
  push := SameScopes.push

/-- An inclusion comes to the same each time if entering its template does. -/
theorem repeats_inclusion (hfinder : finder.Answers answer Kind)
    (hknown : Node.Keeps answer Named Known) {enter : Scope → Template → Walk L Unit}
    (henter : ∀ {s t}, s.All Q → (∀ n ∈ t.nodes, Known n) → Repeats Kind m (enter s t))
    {name : String} {s : Scope} (hname : Known (.inclusion name)) (hs : s.All Q) :
    Repeats Kind m (node finder enter s (.inclusion name)) := by
  refine repeats_find hfinder name fun found hfound => ?_
  cases found with
  | none => exact repeats_pure ()
  | some t => exact (repeats_tell _).bind fun _ => henter hs (hknown.found hname hfound)

/-- In a scope that stays as it is, a template is walked in the same way again. -/
theorem repeats_template (hfinder : finder.Answers answer Kind) (hsteady : Value.Steady Named Q)
    (hlasting : ∀ v, Q v → v.isLasting = true) (hknown : Node.Keeps answer Named Known)
    (depth : Nat) (active : List String) {scope : Scope} (hscope : scope.All Q) {t : Template}
    (ht : ∀ n ∈ t.nodes, Known n) : Repeats Kind m (template finder depth active scope t) := by
  refine (scopedCongruence_repeats hsteady hlasting).template finder finder hknown.toResolves
    (fun _ => repeats_throw _) (repeats_throw _) (fun henter _ _ _ hname hs => ?_) depth active
    ⟨rfl, hscope⟩ ht
  exact repeats_inclusion hfinder hknown (fun hs => henter ⟨rfl, hs⟩) hname hs.2

/-- In a scope that stays as it is, nodes are walked in the same way again. -/
theorem repeats_nodes (hfinder : finder.Answers answer Kind) (hsteady : Value.Steady Named Q)
    (hlasting : ∀ v, Q v → v.isLasting = true) (hknown : Node.Keeps answer Named Known)
    (depth : Nat) (active : List String) {scope : Scope} (hscope : scope.All Q) {body : List Node}
    (hbody : ∀ n ∈ body, Known n) :
    Repeats Kind m (nodes finder (template finder depth active) scope body) := by
  have henter {s : Scope} {t : Template} (hs : s.All Q) (ht : ∀ n ∈ t.nodes, Known n) :
      Repeats Kind m (template finder depth active s t) :=
    repeats_template hfinder hsteady hlasting hknown depth active hs ht
  exact (scopedCongruence_repeats hsteady hlasting).nodes finder finder _
    (template finder depth active) hknown.toResolves
    (fun hname hs => repeats_inclusion hfinder hknown henter hname hs.2) body hbody ⟨rfl, hscope⟩

end

end Walk

end Mustache
