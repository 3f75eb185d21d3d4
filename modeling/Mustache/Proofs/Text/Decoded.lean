import Mustache.Proofs.Failing
import Mustache.Text.Encoding

/-!
# Decoded texts

Every character takes at least one byte, so no text is longer than the bytes that it was decoded
from, whatever the encoding. Reading line endings as line feeds does not make it longer. It leaves
no carriage return, and changes nothing but them.
-/

namespace Mustache.Text

/-! ## Lengths -/

/-- One character more, for at least one byte more. -/
theorem length_le_of_map_cons {x : Decoded} {c : Char} {s : List Char} {n : Nat}
    (h : x.map (c :: ·) = .ok s) (hrest : ∀ rest, x = .ok rest → rest.length ≤ n) :
    s.length ≤ n + 1 := by
  obtain ⟨rest, hx, rfl⟩ := map_eq_ok_iff.1 h
  exact Nat.succ_le_succ (hrest rest hx)

/-- UTF-8 has no more characters than bytes. -/
theorem length_decodeUtf8_le {position skip : Nat} {bytes : List UInt8} {s : List Char}
    (h : decodeUtf8 position skip bytes = .ok s) : s.length ≤ bytes.length := by
  induction bytes generalizing position skip s with
  | nil =>
    obtain rfl := Except.ok.inj h
    exact Nat.le_refl 0
  | cons b rest ih =>
    cases skip with
    | succ skip => exact Nat.le_succ_of_le (ih h)
    | zero =>
      unfold decodeUtf8 at h
      dsimp only at h
      split at h
      · exact length_le_of_map_cons h fun _ => ih
      · cases h

theorem length_decodeUtf16_le {order : ByteOrder} {position : Nat} {bytes : List UInt8}
    {s : List Char} (h : decodeUtf16 order position bytes = .ok s) : s.length ≤ bytes.length := by
  fun_induction decodeUtf16 order position bytes generalizing s
  case case1 =>
    obtain rfl := Except.ok.inj h
    exact Nat.le_refl 0
  case case2 | case3 | case5 | case6 => cases h
  case case4 ih | case7 ih =>
    have hlength := length_le_of_map_cons h fun _ => ih
    simp only [List.length_cons]
    omega

theorem length_decodeUtf32_le {order : ByteOrder} {position : Nat} {bytes : List UInt8}
    {s : List Char} (h : decodeUtf32 order position bytes = .ok s) : s.length ≤ bytes.length := by
  fun_induction decodeUtf32 order position bytes generalizing s
  case case1 =>
    obtain rfl := Except.ok.inj h
    exact Nat.le_refl 0
  case case2 | case3 | case5 => cases h
  case case4 ih =>
    have hlength := length_le_of_map_cons h fun _ => ih
    simp only [List.length_cons]
    omega

theorem length_decodeBytes_le {encoding reason : String} {char? : UInt8 → Option Char}
    {position : Nat} {bytes : List UInt8} {s : List Char}
    (h : decodeBytes encoding reason char? position bytes = .ok s) :
    s.length ≤ bytes.length := by
  induction bytes generalizing position s with
  | nil =>
    obtain rfl := Except.ok.inj h
    exact Nat.le_refl 0
  | cons b rest ih =>
    rw [decodeBytes] at h
    split at h
    · exact length_le_of_map_cons h fun _ => ih
    · cases h

theorem length_decodeMarkedUtf8_le {bytes : List UInt8} {s : List Char}
    (h : decodeMarkedUtf8 bytes = .ok s) : s.length ≤ bytes.length := by
  unfold decodeMarkedUtf8 at h
  split at h
  · obtain rfl := Except.ok.inj h
    exact Nat.zero_le _
  · obtain rfl := Except.ok.inj h
    exact Nat.zero_le _
  · have hrest := length_decodeUtf8_le h
    simp only [List.length_cons]
    omega
  · exact length_decodeUtf8_le h

theorem length_decodeMarked_le {mark? : Option ByteOrder} {width : Nat}
    {decodeFrom : ByteOrder → Nat → List UInt8 → Decoded} {bytes : List UInt8} {s : List Char}
    (h : decodeMarked mark? width decodeFrom bytes = .ok s)
    (hfrom : ∀ {order position bytes s}, decodeFrom order position bytes = .ok s →
      s.length ≤ bytes.length) : s.length ≤ bytes.length := by
  unfold decodeMarked at h
  split at h
  · have hrest := hfrom (mapError_eq_ok_iff.1 h)
    rw [List.length_drop] at hrest
    omega
  · split at h
    · cases h
    · split at h
      · obtain rfl := Except.ok.inj h
        exact Nat.zero_le _
      · cases h

/-- A text is no longer than its bytes. -/
theorem length_decode_le {encoding : Encoding} {bytes : List UInt8} {s : List Char}
    (h : decode encoding bytes = .ok s) : s.length ≤ bytes.length := by
  unfold decode at h
  split at h
  · exact length_decodeUtf8_le (mapError_eq_ok_iff.1 h)
  · exact length_decodeMarkedUtf8_le (mapError_eq_ok_iff.1 h)
  · exact length_decodeUtf16_le (mapError_eq_ok_iff.1 h)
  · exact length_decodeMarked_le h length_decodeUtf16_le
  · exact length_decodeUtf32_le (mapError_eq_ok_iff.1 h)
  · exact length_decodeMarked_le h length_decodeUtf32_le
  · exact length_decodeBytes_le (mapError_eq_ok_iff.1 h)
  · obtain rfl := Except.ok.inj h
    exact Nat.le_of_eq (List.length_map _)
  · exact length_decodeBytes_le (mapError_eq_ok_iff.1 h)

/-! ## Line endings -/

/-- Line endings become shorter or stay as long. -/
theorem length_unifyLines_le (s : List Char) : (unifyLines s).length ≤ s.length := by
  fun_induction unifyLines s with
  | case1 => exact Nat.le_refl 0
  | case2 s ih => simp only [List.length_cons]; omega
  | case3 s _ ih => exact Nat.succ_le_succ ih
  | case4 c s _ _ ih => exact Nat.succ_le_succ ih

theorem not_mem_unifyLines (s : List Char) : '\r' ∉ unifyLines s := by
  fun_induction unifyLines s with
  | case1 => exact List.not_mem_nil
  | case2 s ih => exact List.not_mem_cons_of_ne_of_not_mem (by decide) ih
  | case3 s _ ih => exact List.not_mem_cons_of_ne_of_not_mem (by decide) ih
  | case4 c s _ hne ih => exact List.not_mem_cons_of_ne_of_not_mem (fun h => hne h.symm) ih

/-- A text without carriage returns stays as it is. -/
theorem unifyLines_of_not_mem {s : List Char} (h : '\r' ∉ s) : unifyLines s = s := by
  fun_induction unifyLines s with
  | case1 => rfl
  | case2 s ih => exact absurd List.mem_cons_self h
  | case3 s _ ih => exact absurd List.mem_cons_self h
  | case4 c s _ _ ih => rw [ih fun hmem => h (List.mem_cons_of_mem c hmem)]

/-- A text with every line ending as a line feed. -/
def unified (s : String) : String := String.ofList (unifyLines s.toList)

/-- Exactly the texts without a carriage return stay as they are. -/
theorem unified_eq_iff {s : String} : unified s = s ↔ '\r' ∉ s.toList := by
  constructor
  · intro h
    rw [← h, unified, String.toList_ofList]
    exact not_mem_unifyLines s.toList
  · intro h
    rw [unified, unifyLines_of_not_mem h, String.ofList_toList]

end Mustache.Text
