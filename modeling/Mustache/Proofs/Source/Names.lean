import Mathlib.Data.List.Dedup
import Mustache.Proofs.Disk.Places
import Mustache.Proofs.Engine.Faithful
import Mustache.Proofs.Text.Decoded

/-!
# Names in the texts of a source

A text that is loaded from a folder is that of a file of the disk, so the names that it includes are
among those in all files. There are no more of them than there are bytes on the disk. With the names
in the template itself they are fewer than the depth that an engine allows.
-/

namespace Mustache

/-! ## Names in files -/

namespace Entry

mutual

/-- The names that the files of an entry include if they are in an encoding. -/
def namesIn (encoding : Encoding) : Entry → List String
  | .file bytes =>
    match Text.decode encoding bytes with
    | .error _ => []
    | .ok s => Template.namesIncluded (String.ofList (Text.unifyLines s))
  | .folder entries => namesInAll encoding entries

/-- The names that the files of some entries include. -/
def namesInAll (encoding : Encoding) : List (String × Entry) → List String
  | [] => []
  | (_, entry) :: rest => entry.namesIn encoding ++ namesInAll encoding rest

end

mutual

/-- There are no more names than bytes. -/
theorem length_namesIn_le (encoding : Encoding) : ∀ e : Entry,
    (e.namesIn encoding).length ≤ e.volume
  | .file bytes => by
    rw [namesIn, volume]
    split
    · exact Nat.zero_le _
    · next s hs =>
      have hnames := Template.length_namesIncluded_le (String.ofList (Text.unifyLines s))
      have hunified := Text.length_unifyLines_le s
      have hdecoded := Text.length_decode_le hs
      rw [String.length_ofList] at hnames
      omega
  | .folder entries => length_namesInAll_le encoding entries

/-- The entries of a directory include no more names than their volume. -/
theorem length_namesInAll_le (encoding : Encoding) : ∀ entries : List (String × Entry),
    (namesInAll encoding entries).length ≤ volumes entries
  | [] => Nat.le_refl 0
  | (_, entry) :: rest => by
    rw [namesInAll, volumes, List.length_append]
    exact Nat.add_le_add (length_namesIn_le encoding entry) (length_namesInAll_le encoding rest)

end

/-- What one entry includes, its directory includes. -/
theorem namesIn_subset_namesInAll {encoding : Encoding} {entries : List (String × Entry)}
    {entry : String × Entry} (h : entry ∈ entries) :
    entry.2.namesIn encoding ⊆ namesInAll encoding entries := by
  induction entries with
  | nil => cases h
  | cons first rest ih =>
    rw [namesInAll]
    rcases List.mem_cons.1 h with rfl | hrest
    · exact List.subset_append_left _ _
    · exact List.subset_append_of_subset_right _ (ih hrest)

/-- What stands at a place below includes only names that the whole includes. -/
theorem namesIn_subset_of_at? {encoding : Encoding} {e below : Entry} {names : List String}
    (h : e.at? names = some below) : below.namesIn encoding ⊆ e.namesIn encoding := by
  induction names generalizing e with
  | nil =>
    obtain rfl := Option.some.inj h
    exact List.Subset.refl _
  | cons name rest ih =>
    obtain ⟨next, hnext, hrest⟩ := Option.bind_eq_some_iff.1 h
    cases e with
    | file bytes => cases hnext
    | folder entries =>
      exact List.Subset.trans (ih hrest) (namesIn_subset_namesInAll (mem_of_lookup hnext))

end Entry

/-! ## Names in the texts of a folder -/

namespace Folder

variable {f : Folder} {d : Disk} {key : String}

/-- What a text that is loaded has come from. -/
theorem exists_of_load_ok {loaded : Loaded} (h : f.load d key = .ok loaded) :
    ∃ p encoding bytes s, f.find d key = .ok (some p) ∧
      Encoding.ofName f.encoding = .ok encoding ∧ d.read p = .ok bytes ∧
      Text.decode encoding bytes = .ok s ∧
      loaded = ⟨String.ofList (Text.unifyLines s), some p.text⟩ := by
  unfold load at h
  split at h
  · cases h
  · cases h
  next p hfind =>
  split at h
  · cases h
  next encoding hencoding =>
  split at h
  · cases h
  next bytes hread =>
  split at h
  · cases h
  · cases h
  next s hdecode =>
  exact ⟨p, encoding, bytes, s, hfind, hencoding, hread, hdecode, (Except.ok.inj h).symm⟩

/-- The names that all files include. -/
def names (f : Folder) (d : Disk) : List String :=
  match Encoding.ofName f.encoding with
  | .error _ => []
  | .ok encoding => d.root.namesIn encoding

/-- There are no more names than the texts are long. -/
theorem length_names_le (f : Folder) (d : Disk) : (f.names d).length ≤ d.root.volume := by
  unfold names
  split
  · exact Nat.zero_le _
  · exact Entry.length_namesIn_le _ _

/-- A text that is loaded includes only names that files include. -/
theorem namesIncluded_subset_of_load {loaded : Loaded} (h : f.load d key = .ok loaded) :
    Template.namesIncluded loaded.text ⊆ f.names d := by
  obtain ⟨p, encoding, bytes, s, -, hencoding, hread, hdecode, rfl⟩ := exists_of_load_ok h
  have hfile : (Entry.file bytes).namesIn encoding =
      Template.namesIncluded (String.ofList (Text.unifyLines s)) := by
    rw [Entry.namesIn, hdecode]
  obtain ⟨names, hplace⟩ := Disk.read_eq_ok_iff.1 hread
  obtain ⟨-, hat⟩ := Disk.at?_of_locate hplace
  unfold Folder.names
  rw [hencoding, ← hfile]
  exact Entry.namesIn_subset_of_at? hat

end Folder

/-! ## The depth that an engine allows -/

namespace Source

/-- The names that the texts of a source include. -/
def names (d : Disk) : Source → List String
  | .memory texts => texts.flatMap fun entry => Template.namesIncluded entry.2
  | .folder f => f.names d

theorem length_names_le (d : Disk) (source : Source) :
    (source.names d).length ≤ source.volume d := by
  cases source with
  | memory texts =>
    have htext : ∀ entry : String × String,
        (Template.namesIncluded entry.2).length ≤ entry.2.length :=
      fun entry => Template.length_namesIncluded_le entry.2
    exact length_flatMap_le htext texts
  | folder f => exact f.length_names_le d

/-- What is loaded from memory is what stands there. -/
theorem lookup_of_load {texts : List (String × String)} {d : Disk} {key : String} {loaded : Loaded}
    (h : (memory texts).load d key = .ok loaded) : texts.lookup key = some loaded.text := by
  rw [load] at h
  split at h
  · cases h
  · next text htext =>
    obtain rfl := Except.ok.inj h
    exact htext

theorem namesIncluded_subset_of_load {d : Disk} {source : Source} {key : String} {loaded : Loaded}
    (h : source.load d key = .ok loaded) :
    Template.namesIncluded loaded.text ⊆ source.names d := by
  cases source with
  | memory texts =>
    exact fun name hname => List.mem_flatMap.2 ⟨_, mem_of_lookup (lookup_of_load h), hname⟩
  | folder f => exact Folder.namesIncluded_subset_of_load h

end Source

/-- The key of a template, the names in it, and those in the texts of a source. -/
def Template.keysFrom (source : Source) (d : Disk) (t : Template) : List String :=
  t.key :: (Node.allInclusions t.nodes ++ source.names d)

/-- The depth that an engine allows covers them. -/
theorem Template.length_keysFrom_le (source : Source) (strict : Bool) (c : Cache) (d : Disk)
    (t : Template) :
    (t.keysFrom source d).length ≤ Engine.depthBound ⟨source, strict, c⟩ d t := by
  have hnames := source.length_names_le d
  simp only [keysFrom, List.length_cons, List.length_append, Engine.depthBound]
  omega

/-- Two lists of keys have what they share in a list that is no longer than either. -/
theorem exists_shared (keys others : List String) :
    ∃ shared : List String, shared.length ≤ keys.length ∧ shared.length ≤ others.length ∧
      ∀ key, key ∈ keys → key ∈ others → key ∈ shared := by
  refine ⟨(keys.filter (· ∈ others)).dedup, ?_, ?_, fun key hkey hother => ?_⟩
  · exact ((List.dedup_sublist _).trans List.filter_sublist).length_le
  · refine (List.nodup_dedup _).length_le_of_subset fun key hkey => ?_
    simpa using (List.mem_filter.1 (List.mem_dedup.1 hkey)).2
  · exact List.mem_dedup.2 (List.mem_filter.2 ⟨hkey, decide_eq_true hother⟩)

end Mustache
