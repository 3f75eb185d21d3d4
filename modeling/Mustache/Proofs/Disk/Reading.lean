import Mustache.Disk.Tree
import Mustache.Proofs.Text.Utf8

/-!
# Reading files

What the disk tells of a path: the bytes of the file that is there, that there is none, or that a
name in it is too long to be looked for. A file holds a text if its bytes are those of the text in
UTF-8, and reading it makes every line ending a line feed.
-/

namespace Mustache

namespace Path

/-- Splitting at slashes loses nothing but the slashes. -/
theorem exists_mem_splitSlash_iff {c : Char} (hc : c ≠ '/') (s : List Char) :
    (∃ name ∈ splitSlash s, c ∈ name) ↔ c ∈ s := by
  induction s using splitSlash.induct with
  | case1 => simp [splitSlash]
  | case2 s ih => simp [splitSlash, ih, hc]
  | case3 b s hb hnone ih =>
    simp only [hnone, List.not_mem_nil, false_and, exists_false, false_iff] at ih
    simp [splitSlash, hnone, ih]
  | case4 b s hb first rest hsplit ih =>
    rw [hsplit, List.exists_mem_cons_iff] at ih
    rw [splitSlash, hsplit, List.exists_mem_cons_iff, List.mem_cons, List.mem_cons, or_assoc, ih]
    exact hb

/-- A path holds the null character if the text that it is read from does. -/
theorem holdsNull_ofString (s : String) : (ofString s).holdsNull ↔ '\x00' ∈ s.toList := by
  rw [← exists_mem_splitSlash_iff (c := '\x00') (by decide) s.toList]
  simp only [holdsNull, ofString, namesOf, List.any_eq_true, List.mem_filterMap]
  constructor
  · rintro ⟨_, ⟨name, hmem, hname⟩, hnull⟩
    refine ⟨name, hmem, ?_⟩
    split at hname
    · cases hname
    · cases hname
      rwa [String.toList_ofList, List.contains_iff_mem] at hnull
  · rintro ⟨name, hmem, hnull⟩
    refine ⟨String.ofList name, ⟨name, hmem, if_neg ?_⟩, ?_⟩
    · rintro (rfl | rfl)
      · cases hnull
      · exact absurd hnull (by decide)
    · rwa [String.toList_ofList, List.contains_iff_mem]

/-- A name between slashes that says something. -/
def IsName (name : String) : Prop := name ≠ "" ∧ name ≠ "." ∧ '/' ∉ name.toList

/-- Such a name is not passed over in a text. -/
theorem IsName.not_passed {name : String} (h : IsName name) :
    ¬(name.toList = [] ∨ name.toList = ['.']) := by
  rintro (hnil | hpoint)
  · exact h.1 (String.toList_eq_nil_iff.1 hnil)
  · exact h.2.1 (String.toList_inj.1 hpoint)

/-- A name with a suffix that has no slash is a name. -/
theorem IsName.append {name suffix : String} (h : IsName name) (hsuffix : '/' ∉ suffix.toList) :
    IsName (name ++ suffix) := by
  obtain ⟨hempty, hdot, hslash⟩ := h
  refine ⟨fun hnil => ?_, fun hpoint => ?_, ?_⟩
  · rw [← String.toList_eq_nil_iff, String.toList_append, List.append_eq_nil_iff] at hnil
    exact hempty (String.toList_eq_nil_iff.1 hnil.1)
  · have hchars : name.toList ++ suffix.toList = ['.'] := by
      rw [← String.toList_append, hpoint]
      rfl
    rcases List.append_eq_singleton_iff.1 hchars with ⟨hnil, -⟩ | ⟨hone, -⟩
    · exact hempty (String.toList_eq_nil_iff.1 hnil)
    · exact hdot (String.toList_inj.1 hone)
  · rw [String.toList_append, List.mem_append]
    exact not_or.2 ⟨hslash, hsuffix⟩

theorem splitSlash_of_not_mem {s : List Char} (h : '/' ∉ s) : splitSlash s = [s] := by
  induction s with
  | nil => rfl
  | cons c s ih =>
    obtain ⟨hc, hs⟩ := not_or.1 (mt List.mem_cons.2 h)
    rw [splitSlash, ih hs]
    exact fun heq => hc heq.symm

/-- An addition without slashes can be put behind a last name. -/
theorem withSuffix?_ne_none {p : Path} {last suffix : String} (hlast : p.names.getLast? = some last)
    (hname : IsName last) (hsuffix : '/' ∉ suffix.toList) : p.withSuffix? suffix ≠ none := by
  have hwhole : IsName (last ++ suffix) := hname.append hsuffix
  have hend : (last ++ suffix).toList.getLast? ≠ some '/' := fun hend =>
    hwhole.2.2 (List.mem_of_getLast? hend)
  have hone : namesOf (last ++ suffix).toList = [last ++ suffix] := by
    rw [namesOf, splitSlash_of_not_mem hwhole.2.2, List.filterMap_cons, if_neg hwhole.not_passed,
      String.ofList_toList]
    rfl
  unfold withSuffix?
  rw [hlast]
  dsimp only
  rw [hone, if_neg (by simpa only [Bool.or_eq_true, decide_eq_true_eq, List.length_singleton,
    ne_eq, not_true_eq_false, decide_false, Bool.false_eq_true, or_false] using hend)]
  exact Option.some_ne_none _

end Path

namespace Disk

variable {d : Disk} {p : Path} {bytes : List UInt8}

/-! ## Looking for a file -/

/-- There is a file at a path exactly when it can be read. -/
theorem isFile_eq_true_iff : d.isFile p = .ok true ↔ ∃ bytes, d.read p = .ok bytes := by
  unfold isFile read
  split
  · next heq => simp [heq]
  · next heq => simp [heq]
  · next heq => simp [heq]
  · next heq => simp [heq]

/-- Whether there is a file can always be told, except for a path that is too long. -/
theorem isFile_eq_error_iff {fault : DiskFault} :
    d.isFile p = .error fault ↔ d.locate p = .error .nameTooLong ∧
      fault = ⟨.nameTooLong, p.text⟩ := by
  unfold isFile
  split
  · next heq => simp [heq]
  · next heq => simp [heq]
  · next heq => simp [heq, eq_comm]
  · next hne heq => simpa [heq] using fun h => absurd h hne

theorem isFile_of_locate {place : Place} (h : d.locate p = .ok place) :
    d.isFile p = .ok (!place.entry.isFolder) := by
  obtain ⟨names, entry⟩ := place
  rw [isFile, h]
  cases entry with
  | file bytes => rfl
  | folder entries => rfl

/-- What is read is the file that the path leads to. -/
theorem read_eq_ok_iff : d.read p = .ok bytes ↔ ∃ names, d.locate p = .ok ⟨names, .file bytes⟩ := by
  unfold read
  split
  · next heq => simp [heq]
  · next heq => simp [heq]
  · next heq => simp [heq]

theorem not_holdsNull_of_read (h : d.read p = .ok bytes) : p.holdsNull = false := by
  cases hnull : p.holdsNull with
  | false => rfl
  | true => simp [read, locate, hnull] at h

/-- Short names are not too long wherever they are looked for. -/
theorem follow_ne_nameTooLong {names : List String}
    (h : ∀ name ∈ names, nameSize name ≤ longestName)
    (place : Place) (above : List Place) : follow names place above ≠ .error .nameTooLong := by
  induction names generalizing place above with
  | nil => nofun
  | cons name rest ih =>
    obtain ⟨hname, hrest⟩ := List.forall_mem_cons.1 h
    unfold follow
    split
    · nofun
    split
    · split
      · exact ih hrest _ _
      · exact ih hrest _ _
    split
    · next hlong => exact absurd hname (Nat.not_le.2 hlong)
    split
    · nofun
    · exact ih hrest _ _

/-- A path of short names is not too long to be looked for. -/
theorem locate_ne_nameTooLong (hpath : p.text.utf8ByteSize ≤ longestPath)
    (hnames : ∀ name ∈ d.current ++ p.names, nameSize name ≤ longestName) :
    d.locate p ≠ .error .nameTooLong := by
  unfold locate
  split
  · nofun
  rw [if_neg (Nat.not_lt.2 hpath)]
  refine follow_ne_nameTooLong (fun name hname => hnames name ?_) _ _
  rw [List.mem_append] at hname ⊢
  refine hname.imp_left fun hname => ?_
  split at hname
  · cases hname
  · exact hname

/-! ## Texts in files -/

/-- There is a file whose bytes are those of a text, which is read with line feeds alone. -/
def Holds (d : Disk) (p : Path) (text : List Char) : Prop :=
  ∃ s : String, d.read p = .ok (Text.utf8Bytes s) ∧ Text.unifyLines s.toList = text

end Disk

end Mustache
