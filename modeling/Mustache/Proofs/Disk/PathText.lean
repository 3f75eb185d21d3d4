import Mustache.Proofs.Disk.Reading

/-!
# The texts of paths

Names between slashes can be read back from the text that they make. A path does not get shorter
when names are added to it.
-/

namespace Mustache.Path

theorem splitSlash_append {s : List Char} (h : '/' ∉ s) (more : List Char) :
    splitSlash (s ++ '/' :: more) = s :: splitSlash more := by
  induction s with
  | nil => rfl
  | cons c s ih =>
    obtain ⟨hc, hs⟩ := not_or.1 (mt List.mem_cons.2 h)
    rw [List.cons_append, splitSlash, ih hs]
    exact fun heq => hc heq.symm

/-- Names without slashes are read back from the text that joins them. -/
theorem splitSlash_intercalate {name : String} {names : List String}
    (h : ∀ n ∈ name :: names, '/' ∉ n.toList) :
    splitSlash (String.intercalate "/" (name :: names)).toList =
      (name :: names).map String.toList := by
  obtain ⟨hname, hnames⟩ := List.forall_mem_cons.1 h
  induction names generalizing name with
  | nil =>
    rw [String.intercalate_singleton]
    exact splitSlash_of_not_mem hname
  | cons next rest ih =>
    obtain ⟨hnext, hrest⟩ := List.forall_mem_cons.1 hnames
    have hslash : "/".toList = ['/'] := rfl
    rw [String.intercalate_cons_cons, String.toList_append, String.toList_append, hslash,
      List.append_assoc, List.singleton_append, splitSlash_append hname,
      ih hnames hnext hrest]
    rfl

/-- A relative path of names that say something is read back from its text. -/
theorem ofString_intercalate {names : List String} (hne : names ≠ [])
    (hnames : ∀ name ∈ names, IsName name) :
    ofString (String.intercalate "/" names) = ⟨0, names⟩ := by
  obtain ⟨name, rest, rfl⟩ := List.exists_cons_of_ne_nil hne
  -- the slashes part the names again, and none of them is passed over
  have hread : namesOf (String.intercalate "/" (name :: rest)).toList = name :: rest := by
    have hkept : ∀ n ∈ name :: rest,
        (if n.toList = [] ∨ n.toList = ['.'] then none else some (String.ofList n.toList)) =
          some n := by
      intro n hn
      rw [if_neg (hnames n hn).not_passed, String.ofList_toList]
    rw [namesOf, splitSlash_intercalate fun n hn => (hnames n hn).2.2, List.filterMap_map]
    exact (List.filterMap_congr hkept).trans List.filterMap_some
  -- the first name is no slash, so the path does not start from the root
  have hfirst : ((String.intercalate "/" (name :: rest)).toList.takeWhile (· == '/')) = [] := by
    obtain ⟨hempty, -, hslash⟩ := hnames name List.mem_cons_self
    obtain ⟨c, s, hchars⟩ := List.exists_cons_of_ne_nil (mt String.toList_eq_nil_iff.1 hempty)
    have hc : (c == '/') = false := by
      rw [beq_eq_false_iff_ne]
      rintro rfl
      exact hslash (hchars ▸ List.mem_cons_self)
    have hstart : ∃ more, (String.intercalate "/" (name :: rest)).toList = c :: more := by
      cases rest with
      | nil => exact ⟨s, by rw [String.intercalate_singleton, hchars]⟩
      | cons next rest =>
        refine ⟨s ++ ("/" ++ String.intercalate "/" (next :: rest)).toList, ?_⟩
        rw [String.intercalate_cons_cons, String.append_assoc, String.toList_append, hchars]
        rfl
    obtain ⟨more, hmore⟩ := hstart
    rw [hmore, List.takeWhile_cons, hc]
    rfl
  unfold ofString
  rw [hread, hfirst]
  rfl

theorem size_intercalate_le (names more : List String) :
    (String.intercalate "/" names).utf8ByteSize ≤
      (String.intercalate "/" (names ++ more)).utf8ByteSize := by
  by_cases hnames : names = []
  · rw [hnames, String.intercalate_nil]
    exact Nat.zero_le _
  by_cases hmore : more = []
  · exact Nat.le_of_eq (by rw [hmore, List.append_nil])
  · rw [String.intercalate_append_of_ne_nil hnames hmore, String.utf8ByteSize_append,
      String.utf8ByteSize_append]
    omega

/-- A path with more names is no shorter. -/
theorem size_text_le (slashes : Nat) (names : List String) {more : List String}
    (hmore : ∀ name ∈ more, name ≠ "") :
    (text ⟨slashes, names⟩).utf8ByteSize ≤ (text ⟨slashes, names ++ more⟩).utf8ByteSize := by
  have hle := size_intercalate_le names more
  unfold text
  dsimp only
  by_cases hdot : (slashes = 0 && names.isEmpty) = true
  -- without names the text is a point, and a name is no shorter than that
  · obtain ⟨hslashes, hempty⟩ := Bool.and_eq_true_iff.1 hdot
    obtain rfl := List.isEmpty_iff.1 hempty
    rw [if_pos hdot, List.nil_append]
    cases more with
    | nil => exact Nat.le_of_eq (congrArg String.utf8ByteSize (if_pos hdot).symm)
    | cons name rest =>
      have hone : (String.intercalate "/" [name]).utf8ByteSize ≠ 0 := by
        rw [String.intercalate_singleton, Ne, String.utf8ByteSize_eq_zero_iff]
        exact hmore name List.mem_cons_self
      have hrest := size_intercalate_le [name] rest
      have hpoint : ".".utf8ByteSize = 1 := rfl
      rw [if_neg (by simp), String.utf8ByteSize_append, hpoint]
      rw [List.singleton_append] at hrest
      omega
  · rw [if_neg hdot, if_neg ?_, String.utf8ByteSize_append, String.utf8ByteSize_append]
    · omega
    · intro hmoreDot
      obtain ⟨hslashes, hempty⟩ := Bool.and_eq_true_iff.1 hmoreDot
      have hnil := List.append_eq_nil_iff.1 (List.isEmpty_iff.1 hempty)
      exact hdot (Bool.and_eq_true_iff.2 ⟨hslashes, List.isEmpty_iff.2 hnil.1⟩)

end Mustache.Path
