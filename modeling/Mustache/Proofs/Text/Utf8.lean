import Mathlib.Data.List.Basic
import Mustache.Proofs.Failing
import Mustache.Text.Encoding

/-!
# Texts in UTF-8

The bytes of a character are well formed if there are as many as its first byte calls for, each in
its range: the second byte has a narrower one where the character would have a shorter form, would
be a surrogate or would lie beyond the last code point.

Reading takes exactly the well-formed bytes off the front, and these are the bytes that a character
is written with. So bytes can be read exactly if they are those of a text, and give that text.
-/

namespace Mustache.Text

/-- A byte that goes on with a character. -/
def GoesOn (b : UInt8) : Prop := 0x80 ≤ b.toNat ∧ b.toNat ≤ 0xbf

/-- The bytes of a character and its code point. -/
inductive Utf8Form : List UInt8 → Nat → Prop
  | one {a : UInt8} (ha : a.toNat < 0x80) : Utf8Form [a] a.toNat
  | two {a b : UInt8} (ha : 0xc2 ≤ a.toNat ∧ a.toNat ≤ 0xdf) (hb : GoesOn b) :
    Utf8Form [a, b] (a.toNat % 32 * 64 + b.toNat % 64)
  | three {a b c : UInt8} (ha : 0xe0 ≤ a.toNat ∧ a.toNat ≤ 0xef) (hb : GoesOn b)
    (hleast : a.toNat = 0xe0 → 0xa0 ≤ b.toNat) (hmost : a.toNat = 0xed → b.toNat ≤ 0x9f)
    (hc : GoesOn c) :
    Utf8Form [a, b, c] ((a.toNat % 16 * 64 + b.toNat % 64) * 64 + c.toNat % 64)
  | four {a b c d : UInt8} (ha : 0xf0 ≤ a.toNat ∧ a.toNat ≤ 0xf4) (hb : GoesOn b)
    (hleast : a.toNat = 0xf0 → 0x90 ≤ b.toNat) (hmost : a.toNat = 0xf4 → b.toNat ≤ 0x8f)
    (hc : GoesOn c) (hd : GoesOn d) :
    Utf8Form [a, b, c, d]
      (((a.toNat % 8 * 64 + b.toNat % 64) * 64 + c.toNat % 64) * 64 + d.toNat % 64)

variable {a : UInt8} {form bytes rest : List UInt8} {n : Nat}

/-! ## Writing -/

/-- A form in UTF-8 is that of a character. -/
theorem Utf8Form.isValidChar (h : Utf8Form form n) : n.isValidChar := by
  unfold Nat.isValidChar
  cases h with
  | one ha => omega
  | two ha hb =>
    obtain ⟨hb, hb'⟩ := hb
    omega
  | three ha hb hleast hmost hc =>
    obtain ⟨hb, hb'⟩ := hb
    omega
  | four ha hb hleast hmost hc hd =>
    obtain ⟨hb, hb'⟩ := hb
    omega

theorem ofNat_eq_of_toNat (h : n = a.toNat) : UInt8.ofNat n = a := by
  rw [h, UInt8.ofNat_toNat]

/-- A character is written with its well-formed bytes. -/
theorem Utf8Form.encode_eq (h : Utf8Form form n) :
    String.utf8EncodeChar (Char.ofNat n) = form := by
  have hn : (Char.ofNat n).val.toNat = n := by
    rw [Char.ofNat, dif_pos h.isValidChar]
    exact UInt32.toNat_ofNatLT
  rw [String.utf8EncodeChar]
  simp only [hn]
  cases h with
  | one ha => rw [if_pos (by omega), ofNat_eq_of_toNat rfl]
  | @two a b ha hb =>
    obtain ⟨hb, hb'⟩ := hb
    rw [if_neg (by omega), if_pos (by omega), ofNat_eq_of_toNat (a := a) (by omega),
      ofNat_eq_of_toNat (a := b) (by omega)]
  | @three a b c ha hb hleast hmost hc =>
    obtain ⟨hb, hb'⟩ := hb
    obtain ⟨hc, hc'⟩ := hc
    rw [if_neg (by omega), if_neg (by omega), if_pos (by omega),
      ofNat_eq_of_toNat (a := a) (by omega), ofNat_eq_of_toNat (a := b) (by omega),
      ofNat_eq_of_toNat (a := c) (by omega)]
  | @four a b c d ha hb hleast hmost hc hd =>
    obtain ⟨hb, hb'⟩ := hb
    obtain ⟨hc, hc'⟩ := hc
    obtain ⟨hd, hd'⟩ := hd
    rw [if_neg (by omega), if_neg (by omega), if_neg (by omega),
      ofNat_eq_of_toNat (a := a) (by omega), ofNat_eq_of_toNat (a := b) (by omega),
      ofNat_eq_of_toNat (a := c) (by omega), ofNat_eq_of_toNat (a := d) (by omega)]

theorem toNat_ofNat_of_lt (h : n < 256) : (UInt8.ofNat n).toNat = n := by
  rw [UInt8.toNat_ofNat']
  exact Nat.mod_eq_of_lt h

theorem Utf8Form.of_eq {m : Nat} (h : Utf8Form form m) (hm : m = n) : Utf8Form form n := hm ▸ h

/-- The bytes that a character is written with are well formed. -/
theorem utf8Form_encode (c : Char) : Utf8Form (String.utf8EncodeChar c) c.toNat := by
  have hvalid : c.toNat < 0xd800 ∨ 0xdfff < c.toNat ∧ c.toNat < 0x110000 := c.valid
  rw [String.utf8EncodeChar]
  simp only [show c.val.toNat = c.toNat from rfl]
  generalize c.toNat = n at hvalid
  have lead {k : Nat} (hk : k < 256) : (UInt8.ofNat k).toNat = k := toNat_ofNat_of_lt hk
  have tail (k : Nat) : (UInt8.ofNat (k % 64 + 128)).toNat = k % 64 + 128 :=
    toNat_ofNat_of_lt (by omega)
  have goesOn (k : Nat) : GoesOn (UInt8.ofNat (k % 64 + 128)) := by
    rw [GoesOn, tail]
    omega
  -- one case for each length, and in each the leading byte and the others are in their ranges
  by_cases h₁ : n ≤ 127
  · rw [if_pos h₁]
    have ha := lead (k := n) (by omega)
    exact (Utf8Form.one (by omega)).of_eq ha
  by_cases h₂ : n ≤ 2047
  · rw [if_neg h₁, if_pos h₂]
    have ha := lead (k := n / 64 % 32 + 192) (by omega)
    refine (Utf8Form.two (by omega) (goesOn n)).of_eq ?_
    rw [ha, tail]
    omega
  by_cases h₃ : n ≤ 65535
  · rw [if_neg h₁, if_neg h₂, if_pos h₃]
    have ha := lead (k := n / 4096 % 16 + 224) (by omega)
    have hb := tail (n / 64)
    refine (Utf8Form.three (by omega) (goesOn _) (by omega) (by omega) (goesOn n)).of_eq ?_
    rw [ha, hb, tail]
    omega
  · rw [if_neg h₁, if_neg h₂, if_neg h₃]
    have ha := lead (k := n / 262144 % 8 + 240) (by omega)
    have hb := tail (n / 4096)
    refine (Utf8Form.four (by omega) (goesOn _) (by omega) (by omega)
      (goesOn _) (goesOn n)).of_eq ?_
    rw [ha, hb, tail, tail]
    omega

/-! ## Reading -/

theorem utf8Shape_of_two (h : 0xc2 ≤ n ∧ n ≤ 0xdf) : utf8Shape n = some (0x80, 0xbf, 1) := by
  rw [utf8Shape, if_pos (by simpa using h)]

theorem utf8Shape_of_three (h : 0xe0 ≤ n ∧ n ≤ 0xef) :
    utf8Shape n =
      some (if n = 0xe0 then 0xa0 else 0x80, if n = 0xed then 0x9f else 0xbf, 2) := by
  simp only [utf8Shape, Bool.and_eq_true, decide_eq_true_eq]
  grind

theorem utf8Shape_of_four (h : 0xf0 ≤ n ∧ n ≤ 0xf4) :
    utf8Shape n =
      some (if n = 0xf0 then 0x90 else 0x80, if n = 0xf4 then 0x8f else 0xbf, 3) := by
  simp only [utf8Shape, Bool.and_eq_true, decide_eq_true_eq]
  grind

/-- A first byte of more than one is in one of three ranges. -/
theorem range_of_utf8Shape {shape : Nat × Nat × Nat} (h : utf8Shape n = some shape) :
    (0xc2 ≤ n ∧ n ≤ 0xdf) ∨ (0xe0 ≤ n ∧ n ≤ 0xef) ∨ (0xf0 ≤ n ∧ n ≤ 0xf4) := by
  simp only [utf8Shape, Bool.and_eq_true, decide_eq_true_eq] at h
  grind

theorem utf8Lead_of_two (h : n < 0xe0) : utf8Lead n = n % 32 := by
  rw [utf8Lead, if_pos h]

theorem utf8Lead_of_three (h : 0xe0 ≤ n ∧ n ≤ 0xef) : utf8Lead n = n % 16 := by
  rw [utf8Lead, if_neg (by omega), if_pos (by omega)]

theorem utf8Lead_of_four (h : 0xf0 ≤ n) : utf8Lead n = n % 8 := by
  rw [utf8Lead, if_neg (by omega), if_neg (by omega)]

section
variable {low high width value count : Nat}

/-- A byte that may go on adds six bits. -/
theorem utf8Rest_cons {b : UInt8} (hlow : low ≤ b.toNat) (hhigh : b.toNat ≤ high)
    (bytes : List UInt8) :
    utf8Rest low high width value (count + 1) (b :: bytes) =
      utf8Rest 0x80 0xbf (width + 1) (value * 64 + b.toNat % 64) count bytes := by
  rw [utf8Rest, if_pos (by simpa using ⟨hlow, hhigh⟩)]

/-- A character with more bytes to come has one that may go on. -/
theorem exists_of_utf8Rest {c : Char} {taken : Nat}
    (h : utf8Rest low high width value (count + 1) bytes = .char c taken) :
    ∃ b more, bytes = b :: more ∧ (low ≤ b.toNat ∧ b.toNat ≤ high) ∧
      utf8Rest 0x80 0xbf (width + 1) (value * 64 + b.toNat % 64) count more = .char c taken := by
  cases bytes with
  | nil => cases h
  | cons b more =>
    rw [utf8Rest] at h
    split at h
    · next hb => exact ⟨b, more, rfl, by simpa using hb, h⟩
    · cases h

end

/-- Well-formed bytes are read as their character, whatever follows. -/
theorem utf8Front_of_form (h : Utf8Form (a :: form) n) (rest : List UInt8) :
    utf8Front a (form ++ rest) = .char (Char.ofNat n) (form.length + 1) := by
  unfold utf8Front
  cases h with
  | one ha =>
    rw [if_pos ha]
    rfl
  | two ha hb =>
    rw [if_neg (by omega), utf8Shape_of_two ha]
    show utf8Rest _ _ _ _ _ (_ :: rest) = _
    rw [utf8Rest_cons hb.1 hb.2, utf8Rest, utf8Lead_of_two (by omega)]
    rfl
  | three ha hb hleast hmost hc =>
    obtain ⟨hb, hb'⟩ := hb
    -- the shape of the first byte bounds the second one, so overlong forms do not come up
    rw [if_neg (by omega), utf8Shape_of_three ha]
    show utf8Rest _ _ _ _ _ (_ :: _ :: rest) = _
    rw [utf8Rest_cons (by split <;> omega) (by split <;> omega), utf8Rest_cons hc.1 hc.2, utf8Rest,
      utf8Lead_of_three ha]
    rfl
  | four ha hb hleast hmost hc hd =>
    obtain ⟨hb, hb'⟩ := hb
    rw [if_neg (by omega), utf8Shape_of_four ha]
    show utf8Rest _ _ _ _ _ (_ :: _ :: _ :: rest) = _
    rw [utf8Rest_cons (by split <;> omega) (by split <;> omega), utf8Rest_cons hc.1 hc.2,
      utf8Rest_cons hd.1 hd.2, utf8Rest, utf8Lead_of_four ha.1]
    rfl

/-- What is read as a character are well-formed bytes at the front. -/
theorem exists_form_of_utf8Front {c : Char} {width : Nat}
    (h : utf8Front a bytes = .char c width) :
    ∃ form more n, bytes = form ++ more ∧ Utf8Form (a :: form) n ∧ c = Char.ofNat n ∧
      width = form.length + 1 := by
  unfold utf8Front at h
  split at h
  · next ha =>
    cases h
    exact ⟨[], bytes, a.toNat, rfl, .one ha, rfl, rfl⟩
  next ha =>
  cases hshape : utf8Shape a.toNat with
  | none =>
    rw [hshape] at h
    cases h
  | some shape =>
    -- the leading byte tells how many bytes go on
    rcases range_of_utf8Shape hshape with ha | ha | ha
    · rw [utf8Shape_of_two ha, utf8Lead_of_two (by omega)] at h
      obtain ⟨b, more, rfl, hb, h⟩ := exists_of_utf8Rest h
      cases h
      exact ⟨[b], more, _, rfl, .two ha hb, rfl, rfl⟩
    · rw [utf8Shape_of_three ha, utf8Lead_of_three ha] at h
      obtain ⟨b, more, rfl, ⟨hlow, hhigh⟩, h⟩ := exists_of_utf8Rest h
      obtain ⟨c, more, rfl, hc, h⟩ := exists_of_utf8Rest h
      cases h
      refine ⟨[b, c], more, _, rfl, .three ha ⟨?_, ?_⟩ ?_ ?_ hc, rfl, rfl⟩ <;> grind
    · rw [utf8Shape_of_four ha, utf8Lead_of_four ha.1] at h
      obtain ⟨b, more, rfl, ⟨hlow, hhigh⟩, h⟩ := exists_of_utf8Rest h
      obtain ⟨c, more, rfl, hc, h⟩ := exists_of_utf8Rest h
      obtain ⟨d, more, rfl, hd, h⟩ := exists_of_utf8Rest h
      cases h
      refine ⟨[b, c, d], more, _, rfl, .four ha ⟨?_, ?_⟩ ?_ ?_ hc hd, rfl, rfl⟩ <;> grind

/-- The bytes of a character are skipped once it has been read. -/
theorem decodeUtf8_skip (form rest : List UInt8) (position : Nat) :
    decodeUtf8 position form.length (form ++ rest) =
      decodeUtf8 (position + form.length) 0 rest := by
  induction form generalizing position with
  | nil => rfl
  | cons b form ih =>
    show decodeUtf8 (position + 1) form.length (form ++ rest) = _
    rw [ih, List.length_cons, Nat.add_assoc, Nat.add_comm 1]

/-- Reading the bytes of a character gives it, and goes on behind them. -/
theorem decodeUtf8_encode (c : Char) (rest : List UInt8) (position : Nat) :
    decodeUtf8 position 0 (String.utf8EncodeChar c ++ rest) =
      (decodeUtf8 (position + (String.utf8EncodeChar c).length) 0 rest).map (c :: ·) := by
  have hform := utf8Form_encode c
  cases hbytes : String.utf8EncodeChar c with
  | nil =>
    rw [hbytes] at hform
    cases hform
  | cons a form =>
    rw [hbytes] at hform
    rw [List.cons_append, decodeUtf8, utf8Front_of_form hform, Char.ofNat_toNat]
    show (decodeUtf8 (position + 1) form.length (form ++ rest)).map (c :: ·) = _
    rw [decodeUtf8_skip, List.length_cons, Nat.add_assoc, Nat.add_comm 1]

/-- Bytes are read exactly as the text that they are written from. -/
theorem decodeUtf8_eq_ok_iff {position : Nat} {s : List Char} :
    decodeUtf8 position 0 bytes = .ok s ↔ bytes = s.flatMap String.utf8EncodeChar := by
  constructor
  · intro h
    -- the bytes of one character go at a time
    induction hlength : bytes.length using Nat.strongRecOn generalizing bytes position s with
    | _ length ih =>
      cases bytes with
      | nil =>
        cases h
        rfl
      | cons a bytes =>
        rw [decodeUtf8] at h
        cases hfront : utf8Front a bytes with
        | fault width reason =>
          rw [hfront] at h
          cases h
        | char c width =>
          obtain ⟨form, more, n, rfl, hform, rfl, rfl⟩ := exists_form_of_utf8Front hfront
          rw [hfront] at h
          obtain ⟨s, hs, rfl⟩ := map_eq_ok_iff.1 h
          rw [Nat.add_sub_cancel, decodeUtf8_skip] at hs
          have hlt : more.length < length := by
            simp only [← hlength, List.length_cons, List.length_append]
            omega
          rw [List.flatMap_cons, hform.encode_eq, ← ih _ hlt hs rfl]
          rfl
  · rintro rfl
    induction s generalizing position with
    | nil => rfl
    | cons c s ih => rw [List.flatMap_cons, decodeUtf8_encode, ih]; rfl

/-- A text is in UTF-8 character by character. -/
theorem utf8Bytes_ofList (s : List Char) :
    utf8Bytes (String.ofList s) = s.flatMap String.utf8EncodeChar := by
  show ((s.flatMap String.utf8EncodeChar).toByteArray).data.toList = _
  exact List.toList_data_toByteArray

/-- Bytes are a text in UTF-8 exactly if they are the bytes of that text. -/
theorem decode_utf8_eq_ok_iff {s : List Char} :
    decode .utf8 bytes = .ok s ↔ bytes = utf8Bytes (String.ofList s) := by
  rw [decode, mapError_eq_ok_iff, decodeUtf8_eq_ok_iff, utf8Bytes_ofList]

/-- The bytes of a text decode to it. -/
theorem decode_utf8Bytes (s : String) : decode .utf8 (utf8Bytes s) = .ok s.toList := by
  rw [decode_utf8_eq_ok_iff, String.ofList_toList]

/-- Bytes that are not those of a text cannot be read. -/
theorem decode_utf8_eq_error_iff :
    (∃ problem, decode .utf8 bytes = .error problem) ↔ ∀ s, bytes ≠ utf8Bytes s := by
  cases h : decode .utf8 bytes with
  | ok s => simpa using ⟨_, decode_utf8_eq_ok_iff.1 h⟩
  | error problem =>
    refine iff_of_true ⟨problem, rfl⟩ fun s hs => ?_
    rw [hs, decode_utf8Bytes] at h
    cases h

end Mustache.Text
