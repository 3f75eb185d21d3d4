import Mustache.Render.Walk

/-!
# Relations between walks

A walk over a node is put together from a few primitive steps. A relation between walks that holds
of each primitive step and itself, and that is kept where walks are put together, holds of the walks
over any nodes as well, as long as it holds where another template is included. This is the one
induction over nodes that facts about two walks need; a fact about single walks is the case of a
relation that looks at one side only.
-/

namespace Mustache

namespace Sink

/-- A sink with one more chunk. -/
def put (s : Sink) (chunk : String) : Sink := { s with written := chunk :: s.written }

/-- A sink that takes a chunk is the same with the chunk. -/
theorem eq_of_write {s s' : Sink} {chunk : String} (h : s.write chunk = .ok s') :
    s' = { s with written := chunk :: s.written } := by
  unfold write at h
  split at h
  · exact (Except.ok.inj h).symm
  · split at h
    · exact (Except.ok.inj h).symm
    · cases h
  · split at h
    · exact (Except.ok.inj h).symm
    · cases h

/-- A sink without a capacity takes every chunk. -/
theorem write_of_capacity_none {s : Sink} (h : s.capacity = none) (chunk : String) :
    s.write chunk = .ok (s.put chunk) := by
  unfold write
  split
  · rfl
  · next hcapacity => cases hcapacity.symm.trans h
  · next hcapacity => cases hcapacity.symm.trans h

end Sink

namespace Walk

variable {L L' α β : Type}

theorem bind_apply (w : Walk L α) (f : α → Walk L β) (p : Progress L) :
    (w >>= f) p =
      match w p with
      | (.ok a, p) => f a p
      | (.error fault, p) => (.error fault, p) := by
  show (ExceptT.bindCont f (w p).1) (w p).2 = _
  rcases w p with ⟨_ | _, _⟩ <;> rfl

/-- A sink without bounds takes every chunk. -/
theorem write_apply {p : Progress L} (h : p.sink.capacity = none) (chunk : String) :
    write chunk p = (.ok (), { p with sink := p.sink.put chunk }) := by
  rw [write, Sink.write_of_capacity_none h]

/-- Looking a template up in a list leaves everything as it is. -/
theorem find_lookupFinder (name : String) (p : Progress (List (String × Template))) :
    find lookupFinder name p = (.ok (p.library.lookup name), p) := by
  rw [find, lookupFinder, List.append_nil]

theorem consult_apply (f : Memory → Except Failure α × Memory) (p : Progress L) :
    consult f p = ((f p.memory).1.mapError .failure, { p with memory := (f p.memory).2 }) := rfl

/-- A relation between walks that everything but inclusions keeps. -/
structure Congruence (R : ∀ {α : Type}, Walk L α → Walk L' α → Prop) : Prop where
  value : ∀ {α : Type} (a : α), R (pure a : Walk L α) (pure a)
  andThen : ∀ {α β : Type} {w : Walk L α} {v : Walk L' α} {f : α → Walk L β} {g : α → Walk L' β},
    R w v → (∀ a, R (f a) (g a)) → R (w >>= f) (v >>= g)
  consult : ∀ {α : Type} (f : Memory → Except Failure α × Memory),
    R (consult f : Walk L α) (consult f)
  unsupported : R (throw .unsupportedNode : Walk L Unit) (throw .unsupportedNode)
  chunk : ∀ chunk, R (write chunk : Walk L Unit) (write chunk)

namespace Congruence

variable {R : ∀ {α : Type}, Walk L α → Walk L' α → Prop}

/-! ## What is put together from primitive steps -/

/-- Walks that are related item by item are related over the list. -/
theorem forM (h : Congruence R) {f : β → Walk L Unit} {g : β → Walk L' Unit}
    (hf : ∀ b, R (f b) (g b)) (items : List β) : R (items.forM f) (items.forM g) := by
  induction items with
  | nil => exact h.value ()
  | cons b items ih => exact h.andThen (hf b) fun _ => ih

theorem ofExcept (h : Congruence R) (x : Except Failure α) :
    R (Walk.ofExcept x : Walk L α) (Walk.ofExcept x) := h.consult _

theorem items? (h : Congruence R) (v : Value) :
    R (Walk.items? v : Walk L (Option (List Value))) (Walk.items? v) := h.consult _

theorem resolve (h : Congruence R) (scope : Scope) (name : String) :
    R (Walk.resolve scope name : Walk L Value) (Walk.resolve scope name) := h.consult _

/-- Whether a value is blank is asked of its items alone. -/
theorem isBlank (h : Congruence R) (v : Value) :
    R (Walk.isBlank v : Walk L Bool) (Walk.isBlank v) := by
  unfold Walk.isBlank
  split
  · exact h.value true
  · refine h.andThen (h.items? v) fun items => ?_
    cases items with
    | none => exact h.value false
    | some items => exact h.value items.isEmpty

/-- Writing a value is making its text and writing it. -/
theorem writeValue (h : Congruence R) (v : Value) (escape : Bool) :
    R (Walk.writeValue v escape : Walk L Unit) (Walk.writeValue v escape) := by
  refine h.andThen (h.ofExcept _) fun shown => ?_
  split
  · exact h.value ()
  · exact h.chunk shown

/-! ## Nodes -/

section
variable {finder : Finder L} {finder' : Finder L'} {enter : Scope → Template → Walk L Unit}
  {enter' : Scope → Template → Walk L' Unit}

/-- Blocks of the same name are related if their bodies are. -/
theorem block (h : Congruence R) (inverted : Bool) (name : String) {body body' : List Node}
    (hbody : ∀ scope, R (nodes finder enter scope body) (nodes finder' enter' scope body'))
    (scope : Scope) :
    R (Walk.node finder enter scope (.block inverted name body))
      (Walk.node finder' enter' scope (.block inverted name body')) := by
  cases inverted with
  | false =>
    refine h.andThen (h.resolve scope name) fun v => ?_
    split
    · exact h.value ()
    · refine h.andThen (h.items? v) fun items => ?_
      cases items with
      | none => exact hbody (scope.push v)
      | some items => exact h.forM (fun item => hbody (scope.push item)) items
  | true =>
    refine h.andThen (h.resolve scope name) fun v => h.andThen (h.isBlank v) fun blank => ?_
    split
    · exact hbody scope
    · exact h.value ()

variable (finder finder' enter enter')

mutual

/-- A node is related to itself if its inclusions are, at every scope. -/
theorem node (h : Congruence R) : ∀ n : Node,
    (∀ name ∈ n.inclusions, ∀ scope, R (Walk.node finder enter scope (.inclusion name))
      (Walk.node finder' enter' scope (.inclusion name))) →
    ∀ scope, R (Walk.node finder enter scope n) (Walk.node finder' enter' scope n)
  | .text s, _, _ => h.chunk s
  | .variable name escape, _, scope =>
    h.andThen (h.resolve scope name) fun v => h.writeValue v escape
  | .block inverted name body, hbody, scope => h.block inverted name (nodes h body hbody) scope
  | .inclusion name, hname, scope => hname name (List.mem_singleton_self name) scope
  | .comment _, _, _ => h.value ()
  | .foreign, _, _ => h.unsupported

/-- Nodes are related to themselves if their inclusions are. -/
theorem nodes (h : Congruence R) : ∀ body : List Node,
    (∀ name ∈ Node.allInclusions body, ∀ scope,
      R (Walk.node finder enter scope (.inclusion name))
        (Walk.node finder' enter' scope (.inclusion name))) →
    ∀ scope, R (Walk.nodes finder enter scope body) (Walk.nodes finder' enter' scope body)
  | [], _, _ => h.value ()
  | first :: rest, hnames, scope =>
    h.andThen
      (node h first (fun name hname => hnames name (List.mem_append_left _ hname)) scope) fun _ =>
        nodes h rest (fun name hname => hnames name (List.mem_append_right _ hname)) scope

end

/-! ## Templates -/

/-- Walks over a template are related if it is so for what they do at inclusions: to give up, to ask
for the template, and to tell of it. -/
theorem template (h : Congruence R)
    (hcycle : ∀ chain, R (throw (.cycle chain) : Walk L Unit) (throw (.cycle chain)))
    (hexhausted : R (throw .exhausted : Walk L Unit) (throw .exhausted))
    (hfind : ∀ name, R (find finder name) (find finder' name))
    (htell : ∀ notice, R (tell notice : Walk L Unit) (tell notice)) (depth : Nat)
    (active : List String) (scope : Scope) (t : Template) :
    R (Walk.template finder depth active scope t) (Walk.template finder' depth active scope t) := by
  induction depth generalizing active scope t with
  | zero =>
    unfold Walk.template
    split
    · exact hcycle _
    · exact hexhausted
  | succ depth ih =>
    unfold Walk.template
    split
    · exact hcycle _
    · refine h.nodes _ _ _ _ t.nodes (fun name _ scope => ?_) scope
      refine h.andThen (hfind name) fun found => ?_
      cases found with
      | none => exact h.value ()
      | some u => exact h.andThen (htell _) fun _ => ih _ scope u

end

end Congruence

end Walk

end Mustache
