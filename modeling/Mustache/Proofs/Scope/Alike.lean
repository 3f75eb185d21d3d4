import Mustache.Proofs.Scope.Steady
import Mustache.Proofs.Value.Alike

/-!
# Look-ups in frames that are alike

A name is looked up in one frame after the other, so frames that are alike in pairs give alike
values, or the same failure, and the same buffer is changed by it.
-/

namespace Mustache.Scope

open Value (Alike Leeway)

variable {l : Leeway} {s s' : Scope} {v w : Value} {frames frames' : List Value} {name : String}

/-- The frames of two scopes are alike in pairs. -/
def FramesAlike (l : Leeway) (s s' : Scope) : Prop := List.Forall₂ (Alike l) s.frames s'.frames

theorem FramesAlike.refl (l : Leeway) (s : Scope) : FramesAlike l s s := Alike.refl_all s.frames

theorem framesAlike_ofRoot (h : Alike l v w) : FramesAlike l (ofRoot v) (ofRoot w) := .cons h .nil

/-- A section adds a frame on either side. -/
theorem FramesAlike.push (h : FramesAlike l s s') (hvw : Alike l v w) :
    FramesAlike l (s.push v) (s'.push w) := .cons hvw h

/-- Buffers change alike in frames that are alike. -/
theorem FramesAlike.asOf (hl : l ≠ .identities) (h : FramesAlike l s s') (m : Memory) :
    FramesAlike l (s.asOf m) (s'.asOf m) := by
  unfold FramesAlike
  rw [frames_asOf, frames_asOf, List.forall₂_map_left_iff, List.forall₂_map_right_iff]
  exact h.imp fun _ _ hvw => hvw.asOf hl m

theorem head?_frames (s : Scope) : s.frames.head? = some s.top := by
  obtain ⟨root, inner⟩ := s
  cases inner <;> rfl

/-- The innermost frames are alike as well. -/
theorem FramesAlike.top (h : FramesAlike l s s') : Alike l s.top s'.top := by
  have htop := s.head?_frames
  have htop' := s'.head?_frames
  unfold FramesAlike at h
  generalize s.frames = frames at h htop
  generalize s'.frames = frames' at h htop'
  cases h with
  | nil => cases htop
  | cons hfirst _ =>
    rw [List.head?_cons] at htop htop'
    exact Option.some.inj htop ▸ Option.some.inj htop' ▸ hfirst

section
variable (h : List.Forall₂ (Alike l) frames frames') {origin origin' : Nat}
include h

/-- A name has an answer in the same frame, and the answers are alike. -/
theorem firstMember_alike (horigin : origin = origin' ∨ l = .identities) (name : String) :
    EndsAlike (Option.Rel (Alike l)) (firstMember origin name frames)
      (firstMember origin' name frames') := by
  induction h with
  | nil => exact .done .none
  | @cons v w _ _ hvw _ ih =>
    rw [firstMember, firstMember]
    match v.member? origin name, w.member? origin' name, hvw.member? horigin name with
    | _, _, .failed failure => exact .failed failure
    | _, _, .done .none => exact ih
    | _, _, .done (.some hfound) => exact .done (.some hfound)

/-- It is the same frame, counted from the innermost one, that answers for a name. -/
theorem answering?_alike (name : String) :
    Option.Rel (Alike l) (answering? name frames) (answering? name frames') := by
  induction h with
  | nil => exact .none
  | @cons v w _ _ hvw _ ih =>
    rw [answering?, answering?]
    match v.member? 0 name, w.member? 0 name, hvw.member? (.inl rfl) name with
    | _, _, .failed failure => exact .some hvw
    | _, _, .done .none => exact ih
    | _, _, .done (.some hfound) => exact .some hvw

end

/-- What is resolved in frames that are alike is alike. -/
theorem FramesAlike.resolveFrom (h : FramesAlike l s s') {origin origin' : Nat}
    (horigin : origin = origin' ∨ l = .identities) (name : String) :
    EndsAlike (Alike l) (s.resolveFrom origin name) (s'.resolveFrom origin' name) := by
  unfold Scope.resolveFrom
  split
  · exact .done h.top
  · match firstMember origin name s.frames, firstMember origin' name s'.frames,
      firstMember_alike h horigin name with
    | _, _, .failed failure => exact .failed failure
    | _, _, .done .none => exact .done (.same .null)
    | _, _, .done (.some hfound) => exact .done hfound

section
variable (hl : l ≠ .identities)
include hl

/-- Frames that are alike were made by the same look-ups. -/
theorem FramesAlike.origin_eq (h : FramesAlike l s s') : s.origin = s'.origin := by
  unfold FramesAlike at h
  unfold origin
  generalize s.frames = frames at h ⊢
  generalize s'.frames = frames' at h ⊢
  induction h with
  | nil => rfl
  | cons hvw _ ih => rw [List.foldr_cons, List.foldr_cons, hvw.origin_eq hl, ih]

/-- Looking a name up in frames that are alike gives alike values and changes the same buffer. -/
theorem FramesAlike.look (h : FramesAlike l s s') (name : String) (m : Memory) :
    EndsAlike (Alike l) (s.look name m).1 (s'.look name m).1 ∧
      (s.look name m).2 = (s'.look name m).2 := by
  have hnow := h.asOf hl m
  have horigin := h.origin_eq hl
  refine ⟨hnow.resolveFrom (.inl (by rw [horigin])) name, ?_⟩
  unfold Scope.look lookFrom
  dsimp only
  split
  · rfl
  · match answering? name (s.asOf m).frames, answering? name (s'.asOf m).frames,
      answering?_alike hnow name with
    | _, _, .none => rfl
    | _, _, .some hvw => exact hvw.lookedUp_eq hl m name

end

end Mustache.Scope
