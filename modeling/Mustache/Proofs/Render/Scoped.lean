import Mathlib.Data.Option.Basic
import Mustache.Proofs.Render.Origin
import Mustache.Proofs.Value.Every

/-!
# Relations between walks with scopes

Two walks over the same nodes with different scopes stay related as long as what they get from the
scopes is related: the values of names, the items of values and the texts of values. This is the
induction over nodes with a relation between scopes that goes along. It is also the one for walks
with a single scope whose frames have some property. That is the case of scopes that are the same on
both sides.
-/

namespace Mustache

/-- Some nodes resolve certain names only, and so do those inside them. -/
structure Node.Resolves (Named : String → Prop) (Known : Node → Prop) : Prop where
  name : ∀ {n name}, Known n → n.name? = some name → Named name
  body : ∀ {inverted name body n}, Known (.block inverted name body) → n ∈ body → Known n

namespace Walk

variable {L L' : Type}

/-- A relation between walks that everything but inclusions keeps, where certain names are resolved
in related scopes and give related values. -/
structure ScopedCongruence (R : ∀ {α : Type}, Walk L α → Walk L' α → Prop) (Named : String → Prop)
    (T : Scope → Scope → Prop) (S : Value → Value → Prop) : Prop where
  value : ∀ {α : Type} (a : α), R (pure a : Walk L α) (pure a)
  andThen : ∀ {α β : Type} {w : Walk L α} {v : Walk L' α} {f : α → Walk L β} {g : α → Walk L' β},
    R w v → (∀ a, R (f a) (g a)) → R (w >>= f) (v >>= g)
  unsupported : R (throw .unsupportedNode : Walk L Unit) (throw .unsupportedNode)
  chunk : ∀ chunk, R (write chunk : Walk L Unit) (write chunk)
  resolve : ∀ {α : Type} {s s' name} {f : Value → Walk L α} {g : Value → Walk L' α}, T s s' →
    Named name → (∀ v w, S v w → R (f v) (g w)) →
    R (Walk.resolve s name >>= f) (Walk.resolve s' name >>= g)
  items : ∀ {α : Type} {v w} {f : Option (List Value) → Walk L α}
    {g : Option (List Value) → Walk L' α}, S v w →
    (∀ xs ys, Option.Rel (List.Forall₂ S) xs ys → R (f xs) (g ys)) →
    R (Walk.items? v >>= f) (Walk.items? w >>= g)
  shown : ∀ {v w}, S v w → ∀ escape,
    R (ofExcept (v.shown escape) : Walk L String) (ofExcept (w.shown escape))
  absent : ∀ {v w}, S v w → v.isAbsent = w.isAbsent
  push : ∀ {s s' v w}, T s s' → S v w → T (s.push v) (s'.push w)

/-- What is asked of the walks over included templates. -/
def EntersRelated (R : ∀ {α : Type}, Walk L α → Walk L' α → Prop) (T : Scope → Scope → Prop)
    (Known : Node → Prop) (enter : Scope → Template → Walk L Unit)
    (enter' : Scope → Template → Walk L' Unit) : Prop :=
  ∀ {s s' : Scope} {t : Template}, T s s' → (∀ n ∈ t.nodes, Known n) → R (enter s t) (enter' s' t)

namespace ScopedCongruence

variable {R : ∀ {α : Type}, Walk L α → Walk L' α → Prop} {Named : String → Prop}
  {T : Scope → Scope → Prop} {S : Value → Value → Prop} {v w : Value}

/-- Whether a value is blank is asked of its items. -/
theorem isBlank (h : ScopedCongruence R Named T S) (hvw : S v w) :
    R (Walk.isBlank v : Walk L Bool) (Walk.isBlank w) := by
  unfold Walk.isBlank
  rw [h.absent hvw]
  split
  · exact h.value true
  · refine h.items hvw fun items items' hitems => ?_
    match items, items', hitems with
    | _, _, .none => exact h.value false
    | _, _, .some .nil => exact h.value true
    | _, _, .some (.cons _ _) => exact h.value false

theorem writeValue (h : ScopedCongruence R Named T S) (hvw : S v w) (escape : Bool) :
    R (Walk.writeValue v escape : Walk L Unit) (Walk.writeValue w escape) := by
  refine h.andThen (h.shown hvw escape) fun shown => ?_
  split
  · exact h.value ()
  · exact h.chunk shown

theorem forM (h : ScopedCongruence R Named T S) {items items' : List Value}
    (hitems : List.Forall₂ S items items') {f : Value → Walk L Unit} {g : Value → Walk L' Unit}
    (hf : ∀ a b, S a b → R (f a) (g b)) : R (items.forM f) (items'.forM g) := by
  induction hitems with
  | nil => exact h.value ()
  | cons hfirst _ ih => exact h.andThen (hf _ _ hfirst) fun _ => ih

/-! ## Nodes -/

section
variable {Known : Node → Prop} {finder : Finder L} {finder' : Finder L'}

section
variable {enter : Scope → Template → Walk L Unit} {enter' : Scope → Template → Walk L' Unit}
variable (finder finder' enter enter')

mutual

/-- A node that resolves certain names only is walked in related ways with related scopes. -/
theorem node (h : ScopedCongruence R Named T S) (hknown : Node.Resolves Named Known)
    (hinclusion : ∀ {name s s'}, Known (.inclusion name) → T s s' →
      R (Walk.node finder enter s (.inclusion name))
        (Walk.node finder' enter' s' (.inclusion name))) : (n : Node) → Known n →
    ∀ {s s' : Scope}, T s s' → R (Walk.node finder enter s n) (Walk.node finder' enter' s' n)
  | .text s, _, _, _, _ => h.chunk s
  | .variable _ escape, hn, _, _, hs =>
    h.resolve hs (hknown.name hn rfl) fun _ _ hvw => h.writeValue hvw escape
  | .block false name body, hn, _, _, hs => by
    refine h.resolve hs (hknown.name hn rfl) fun v w hvw => ?_
    have hbody {s s' : Scope} (hs : T s s') :
        R (Walk.nodes finder enter s body) (Walk.nodes finder' enter' s' body) :=
      nodes h hknown hinclusion body (fun n => hknown.body hn) hs
    rw [h.absent hvw]
    split
    · exact h.value ()
    · refine h.items hvw fun items items' hitems => ?_
      -- either way the body is walked with related values as the innermost frames
      match items, items', hitems with
      | _, _, .none => exact hbody (h.push hs hvw)
      | _, _, .some hitems => exact h.forM hitems fun _ _ hitem => hbody (h.push hs hitem)
  | .block true name body, hn, _, _, hs => by
    refine h.resolve hs (hknown.name hn rfl) fun v w hvw => ?_
    refine h.andThen (h.isBlank hvw) fun blank => ?_
    split
    · exact nodes h hknown hinclusion body (fun n => hknown.body hn) hs
    · exact h.value ()
  | .inclusion _, hn, _, _, hs => hinclusion hn hs
  | .comment _, _, _, _, _ => h.value ()
  | .foreign, _, _, _, _ => h.unsupported

/-- Nodes that resolve certain names only are walked in related ways with related scopes. -/
theorem nodes (h : ScopedCongruence R Named T S) (hknown : Node.Resolves Named Known)
    (hinclusion : ∀ {name s s'}, Known (.inclusion name) → T s s' →
      R (Walk.node finder enter s (.inclusion name))
        (Walk.node finder' enter' s' (.inclusion name))) : (body : List Node) →
    (∀ n ∈ body, Known n) → ∀ {s s' : Scope}, T s s' →
    R (Walk.nodes finder enter s body) (Walk.nodes finder' enter' s' body)
  | [], _, _, _, _ => h.value ()
  | first :: rest, hbody, _, _, hs => by
    obtain ⟨hfirst, hrest⟩ := List.forall_mem_cons.1 hbody
    exact h.andThen (node h hknown hinclusion first hfirst hs) fun _ =>
      nodes h hknown hinclusion rest hrest hs

end

end

variable (finder finder') in
/-- Templates are walked in related ways with related scopes, if that is so for what is done at
inclusions: to give up, and to find the template and enter it. -/
theorem template (h : ScopedCongruence R Named T S) (hknown : Node.Resolves Named Known)
    (hcycle : ∀ chain, R (throw (.cycle chain) : Walk L Unit) (throw (.cycle chain)))
    (hexhausted : R (throw .exhausted : Walk L Unit) (throw .exhausted))
    (hinclusion : ∀ {enter enter'}, EntersRelated R T Known enter enter' → ∀ {name s s'},
      Known (.inclusion name) → T s s' →
      R (Walk.node finder enter s (.inclusion name))
        (Walk.node finder' enter' s' (.inclusion name)))
    (depth : Nat) (active : List String) :
    EntersRelated R T Known (Walk.template finder depth active)
      (Walk.template finder' depth active) := by
  induction depth generalizing active with
  | zero =>
    intro s s' t _ _
    unfold Walk.template
    split
    · exact hcycle _
    · exact hexhausted
  | succ depth ih =>
    intro s s' t hs ht
    unfold Walk.template
    split
    · exact hcycle _
    · exact h.nodes finder finder' _ _ hknown (hinclusion (ih _)) t.nodes ht hs

end

end ScopedCongruence

/-! ## A property of all frames -/

/-- The same scope on both sides, all frames of which have a property. -/
def SameScopes (Q : Value → Prop) (s s' : Scope) : Prop := s = s' ∧ s.All Q

/-- The same value on both sides, with a property. -/
def SameValues (Q : Value → Prop) (v w : Value) : Prop := v = w ∧ Q v

theorem SameScopes.push {Q : Value → Prop} {s s' : Scope} {v w : Value} (h : SameScopes Q s s')
    (hvw : SameValues Q v w) : SameScopes Q (s.push v) (s'.push w) :=
  ⟨by rw [h.1, hvw.1], h.2.push hvw.2⟩

/-- Items are the same values on both sides. -/
theorem rel_sameValues {Q : Value → Prop} {items? : Option (List Value)}
    (h : ∀ items, items? = some items → ∀ item ∈ items, Q item) :
    Option.Rel (List.Forall₂ (SameValues Q)) items? items? := by
  cases items? with
  | none => exact .none
  | some items =>
    refine .some (List.forall₂_same.2 fun item hitem => ⟨rfl, h items rfl item hitem⟩)

end Walk

end Mustache
