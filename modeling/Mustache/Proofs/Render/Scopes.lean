import Mustache.Proofs.Render.Twins
import Mustache.Proofs.Scope.Alike

/-!
# Names that are not mentioned

Two scopes give the same page if they give the same values for the names that the template and those
it includes mention, whatever else there is in them and however many frames they have: a frame that
is brought in by a section is brought in on both sides, and it answers for a name before the frames
below it do.

That is so as long as looking names up changes nothing. Where `pop` shortens a buffer, its next
value is another one, and a mapping with the first value under that name cannot follow.
-/

namespace Mustache

open Value (Alike)

namespace Scope

variable {s s' : Scope} {v w : Value} {name : String} {Named : String → Prop}

/-- Two scopes give values that are alike for certain names, or fail for them in the same way; what
look-ups make may have any origins. -/
def AlikeOn (Named : String → Prop) (s s' : Scope) : Prop :=
  ∀ name, Named name → ∀ origin origin',
    EndsAlike (Alike .identities) (s.resolveFrom origin name) (s'.resolveFrom origin' name)

/-- The answer of a frame, or that of the frames below it if the frame has no such member. -/
def answerOr (answer : Except Failure (Option Value)) (below : Except Failure Value) :
    Except Failure Value :=
  match answer with
  | .error failure => .error failure
  | .ok (some found) => .ok found
  | .ok none => below

/-- A name is looked up in the innermost frame first, and below it only if that frame has no
answer. -/
theorem resolveFrom_push (h : name ≠ itself) (origin : Nat) :
    (s.push v).resolveFrom origin name =
      answerOr (v.member? origin name) (s.resolveFrom origin name) := by
  have hframes : (s.push v).frames = v :: s.frames := rfl
  rw [resolveFrom, resolveFrom, if_neg h, if_neg h, hframes, firstMember]
  rcases v.member? origin name with _ | _ | _ <;> rfl

theorem resolveFrom_ofRoot (h : name ≠ itself) (origin : Nat) :
    (ofRoot v).resolveFrom origin name = answerOr (v.member? origin name) (.ok .null) := by
  have hframes : (ofRoot v).frames = [v] := rfl
  rw [resolveFrom, if_neg h, hframes, firstMember]
  rcases v.member? origin name with _ | _ | _ <;> rfl

/-- A frame is brought into both scopes. -/
theorem AlikeOn.push (h : AlikeOn Named s s') (hvw : Alike .identities v w) :
    AlikeOn Named (s.push v) (s'.push w) := by
  intro name hname origin origin'
  by_cases hself : name = itself
  · subst hself
    exact .done hvw
  · rw [resolveFrom_push hself, resolveFrom_push hself]
    have hmember : EndsAlike (Option.Rel (Alike .identities)) (v.member? origin name)
        (w.member? origin' name) := hvw.member? (.inr rfl) name
    match v.member? origin name, w.member? origin' name, hmember with
    | _, _, .failed failure => exact .failed failure
    | _, _, .done .none => exact h name hname origin origin'
    | _, _, .done (.some hfound) => exact .done hfound

/-- Scopes that give the same values are alike. -/
theorem alikeOn_of_eq
    (h : ∀ name, Named name → ∀ origin, s.resolveFrom origin name = s'.resolveFrom origin name) :
    AlikeOn Named s s' := by
  intro name hname origin origin'
  rw [← h name hname origin']
  exact (FramesAlike.refl .identities s).resolveFrom (.inr rfl) name

end Scope

/-- Scopes that are alike for certain names cannot be told apart, if these names change nothing in
them. -/
theorem Walk.twins_alikeOn {Named : String → Prop} {Q : Value → Prop}
    (hsteady : Value.Steady Named Q) :
    Twins Named (fun s s' => Scope.AlikeOn Named s s' ∧ s.All Q ∧ s'.All Q)
      (fun v w => Alike .identities v w ∧ Q v ∧ Q w) fun m => m.buffers = [] where
  look := by
    rintro s s' name m ⟨halike, hs, hs'⟩ hname hm
    rw [Scope.look_of_steady hsteady hs hname hm, Scope.look_of_steady hsteady hs' hname hm]
    refine ⟨?_, rfl, hm⟩
    have hanswers := halike name hname s.origin s'.origin
    exact hanswers.and (fun v hv => hs.resolveFrom hsteady.toClosed hv)
      fun w hw => hs'.resolveFrom hsteady.toClosed hw
  items := by
    rintro v w m ⟨halike, hv, hw⟩ hm
    obtain ⟨hanswers, hmemory⟩ := halike.readItems nofun m
    exact ⟨hanswers.and_items (hsteady.toClosed.items hv) (hsteady.toClosed.items hw), hmemory,
      (Value.buffers_items? v m).trans hm⟩
  absent h := h.1.isAbsent_eq
  shown h := h.1.shown_eq
  push := by
    rintro s s' v w ⟨halike, hs, hs'⟩ ⟨hvw, hv, hw⟩
    exact ⟨halike.push hvw, hs.push hv, hs'.push hw⟩

namespace ItemList

theorem name_of_mentions {name : String} (h : page.Mentions templates name) :
    name = "items" ∨ name = "owner" ∨ name = "." := by
  obtain ⟨n, hn, hname⟩ := h
  rcases mem_of_reaches hn with hn | rfl | hn
  · rcases List.mem_pair.1 hn with rfl | rfl
    · exact .inl (Option.some.inj hname).symm
    · exact .inr (.inl (Option.some.inj hname).symm)
  · cases hname
  · rcases List.mem_pair.1 hn with rfl | rfl
    · cases hname
    · exact .inr (.inr (Option.some.inj hname).symm)

/-- The innermost frame, without an owner. -/
def items : Value := .map [(.text "items", .list [.text "<b>", .text "i"])]

def owner : Value := .map [(.text "owner", .text "x")]

/-- The owner among other things. -/
def ownerAndSecret : Value := .map [(.text "secret", .int 7), (.text "owner", .text "x")]

def near : Scope := (Scope.ofRoot owner).push items

/-- There is more in this scope, and the owner is further out. -/
def far : Scope :=
  ((Scope.ofRoot ownerAndSecret).push (.map [(.text "title", .text "draft")])).push items

theorem resolveFrom_near_far {name : String} (h : page.Mentions templates name) (origin : Nat) :
    near.resolveFrom origin name = far.resolveFrom origin name := by
  rcases name_of_mentions h with rfl | rfl | rfl <;> rfl

theorem leaves_near : page.Leaves templates near := by
  refine .inr ?_
  simp [Scope.All, near, Scope.frames, Scope.ofRoot, Scope.push, items, owner, Value.isFixed,
    Value.every, Value.isBuffer, Value.inside, Value.entriesInside, Value.allInside]

theorem leaves_far : page.Leaves templates far := by
  refine .inr ?_
  simp [Scope.All, far, Scope.frames, Scope.ofRoot, Scope.push, items, ownerAndSecret,
    Value.isFixed, Value.every, Value.isBuffer, Value.inside, Value.entriesInside,
    Value.allInside]

/-- A page that shows the owner and no items. -/
def title : Template := ⟨"title", [.text "of ", .variable "owner" true]⟩

theorem name_of_mentions_title {name : String} (h : title.Mentions templates name) :
    name = "owner" := by
  obtain ⟨n, hn, hname⟩ := h
  have hmem : n ∈ title.nodes := by
    clear hname
    induction hn with
    | own h => exact h
    | inside _ _ ih => simp [title] at ih
    | included _ _ _ ih => simp [title] at ih
  rcases List.mem_pair.1 hmem with rfl | rfl
  · cases hname
  · exact (Option.some.inj hname).symm

end ItemList

end Mustache
