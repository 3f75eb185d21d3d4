import Mustache.Proofs.Disk.PathText
import Mustache.Proofs.Disk.Places
import Mustache.Proofs.Source.Loading

/-!
# Walking a tree of directories

Listing walks a tree of directories. In every directory it gives the files that end in a suffix, in
the order of their names, and then goes into the directories that are not skipped, in the same
order. So it gives the names of exactly these files, each once.
-/

namespace Mustache.Folder

/-! ## The order -/

/-- The order in which names from the top are listed: at the first difference a file comes before
what is in a directory, and names of the same kind are in the order of their characters. -/
inductive Precedes : List String → List String → Prop
  | files {name other : String} (h : name < other) : Precedes [name] [other]
  | fileFirst (name other next : String) (rest : List String) :
    Precedes [name] (other :: next :: rest)
  | folders {name other : String} (h : name < other) (next next' : String)
    (rest rest' : List String) : Precedes (name :: next :: rest) (other :: next' :: rest')
  | inside (name : String) {names others : List String} (h : Precedes names others) :
    Precedes (name :: names) (name :: others)

/-- No file precedes itself. -/
theorem Precedes.irrefl {names : List String} : ¬Precedes names names := by
  induction names with
  | nil => nofun
  | cons name rest ih =>
    intro h
    cases h with
    | files h => exact String.lt_irrefl _ h
    | folders h => exact String.lt_irrefl _ h
    | inside _ h => exact ih h

/-- Files stand in a directory as that directory's own order has them. -/
theorem Precedes.append_left {names others : List String} (h : Precedes names others)
    (above : List String) : Precedes (above ++ names) (above ++ others) := by
  induction above with
  | nil => exact h
  | cons name rest ih => exact .inside name ih

section
variable {α : Type} {named : List (String × α)}

theorem mem_inOrder {entry : String × α} : entry ∈ inOrder named ↔ entry ∈ named :=
  List.mem_mergeSort

/-- Different names are in strict order. -/
theorem pairwise_inOrder (h : (named.map Prod.fst).Nodup) :
    (inOrder named).Pairwise fun a b => a.1 < b.1 := by
  have htrans (a b c : String × α) (hab : decide (a.1 ≤ b.1) = true)
      (hbc : decide (b.1 ≤ c.1) = true) : decide (a.1 ≤ c.1) = true :=
    decide_eq_true (String.le_trans (of_decide_eq_true hab) (of_decide_eq_true hbc))
  have htotal (a b : String × α) : (decide (a.1 ≤ b.1) || decide (b.1 ≤ a.1)) = true := by
    rw [Bool.or_eq_true, decide_eq_true_iff, decide_eq_true_iff]
    exact String.le_total a.1 b.1
  have hsorted : (inOrder named).Pairwise fun a b => decide (a.1 ≤ b.1) = true :=
    List.pairwise_mergeSort htrans htotal named
  have hdifferent : (inOrder named).Pairwise fun a b => a.1 ≠ b.1 := by
    have hperm : (inOrder named).Perm named := List.mergeSort_perm _ _
    exact List.pairwise_map.1 ((hperm.map Prod.fst).nodup_iff.2 h)
  refine (hsorted.and hdifferent).imp fun ⟨hle, hne⟩ => ?_
  exact String.not_le.1 fun hge => hne (String.le_antisymm (of_decide_eq_true hle) hge)

end

/-! ## Walking a tree -/

variable {suffixes : List String} {e : Entry} {entries : List (String × Entry)}
  {names above : List String}

/-- A file with one of the suffixes. -/
def isTemplate (suffixes : List String) (entry : String × Entry) : Bool :=
  !entry.2.isFolder && hasSuffix suffixes entry.1

/-- A directory that listing goes into. -/
def isEntered (entry : String × Entry) : Bool := entry.2.isFolder && entry.1 ≠ skipped

/-- The directories that are entered are those that are not skipped, in their order. -/
theorem foldersOf_eq (suffixes above : List String) (entries : List (String × Entry)) :
    foldersOf suffixes above entries =
      (entries.filter isEntered).map fun e => (e.1, filesOf suffixes (above ++ [e.1]) e.2) := by
  induction entries with
  | nil => rfl
  | cons entry rest ih =>
    obtain ⟨name, below⟩ := entry
    rw [foldersOf, ih, List.filter_cons]
    by_cases h : (below.isFolder && name ≠ skipped) = true
    · rw [if_pos h, if_pos (show isEntered (name, below) = true from h), List.map_cons]
    · rw [if_neg h, if_neg (show ¬isEntered (name, below) = true from h)]

/-- The files of a directory come first, then those of each directory in it. -/
theorem filesOf_folder (suffixes above : List String) (entries : List (String × Entry)) :
    filesOf suffixes above (.folder entries) =
      (inOrder (entries.filter (isTemplate suffixes))).map (fun file => above ++ [file.1]) ++
        (inOrder (entries.filter isEntered)).flatMap fun e =>
          filesOf suffixes (above ++ [e.1]) e.2 := by
  have horder := List.map_mergeSort (l := entries.filter isEntered)
    (r := fun a b => decide (a.1 ≤ b.1))
    (s := fun a b => decide (a.1 ≤ b.1))
    (f := fun e => (e.1, filesOf suffixes (above ++ [e.1]) e.2)) fun _ _ _ _ => rfl
  rw [filesOf, foldersOf_eq, inOrder, inOrder, inOrder, ← horder, List.flatMap_map]
  rfl

/-- Names that lead from an entry to a file that is listed. -/
structure Listed (suffixes : List String) (e : Entry) (names : List String) : Prop where
  file : ∃ bytes, e.at? names = some (.file bytes)
  suffix : ∃ last, names.getLast? = some last ∧ hasSuffix suffixes last = true
  visible : skipped ∉ names.dropLast

theorem Listed.ne_nil (h : Listed suffixes e names) : names ≠ [] := by
  rintro rfl
  obtain ⟨last, hlast, -⟩ := h.suffix
  cases hlast

/-- In the directory itself the files with a suffix are listed. -/
theorem listed_singleton_iff (hnodup : (entries.map Prod.fst).Nodup) {name : String} :
    Listed suffixes (.folder entries) [name] ↔
      ∃ entry ∈ entries, isTemplate suffixes entry = true ∧ entry.1 = name := by
  constructor
  · rintro ⟨⟨bytes, hat⟩, ⟨_, hlast, hsuffix⟩, -⟩
    obtain ⟨next, hnext, hfile⟩ := Option.bind_eq_some_iff.1 hat
    obtain rfl := Option.some.inj hfile
    obtain rfl := Option.some.inj hlast
    exact ⟨(name, .file bytes), mem_of_lookup hnext, hsuffix, rfl⟩
  · rintro ⟨⟨name, entry⟩, hmem, htemplate, rfl⟩
    obtain ⟨hfile, hsuffix⟩ := Bool.and_eq_true_iff.1 htemplate
    cases entry with
    | folder _ => cases hfile
    | file bytes =>
      have hlookup : entries.lookup name = some (.file bytes) := lookup_of_mem hnodup hmem
      refine ⟨⟨bytes, ?_⟩, ⟨name, rfl, hsuffix⟩, List.not_mem_nil⟩
      exact Option.bind_eq_some_iff.2 ⟨_, hlookup, rfl⟩

theorem listed_cons_iff (hnodup : (entries.map Prod.fst).Nodup) {name : String}
    (hne : names ≠ []) :
    Listed suffixes (.folder entries) (name :: names) ↔
      ∃ entry ∈ entries, isEntered entry = true ∧ entry.1 = name ∧
        Listed suffixes entry.2 names := by
  obtain ⟨next, rest, rfl⟩ := List.exists_cons_of_ne_nil hne
  constructor
  · rintro ⟨⟨bytes, hat⟩, ⟨last, hlast, hsuffix⟩, hvisible⟩
    obtain ⟨below, hbelow, hrest⟩ := Option.bind_eq_some_iff.1 hat
    rw [List.dropLast_cons_cons, List.mem_cons, not_or] at hvisible
    -- there are more names to come, so the entry is no file
    have hfolder : below.isFolder = true := by
      cases below with
      | file _ => cases hrest
      | folder _ => rfl
    refine ⟨(name, below), mem_of_lookup hbelow, ?_, rfl, ⟨bytes, hrest⟩, ⟨last, ?_, hsuffix⟩,
      hvisible.2⟩
    · exact Bool.and_eq_true_iff.2 ⟨hfolder, decide_eq_true fun h => hvisible.1 h.symm⟩
    · rwa [List.getLast?_cons_cons] at hlast
  · rintro ⟨⟨name, below⟩, hmem, hentered, rfl, ⟨bytes, hat⟩, ⟨last, hlast, hsuffix⟩, hvisible⟩
    obtain ⟨-, hname⟩ := Bool.and_eq_true_iff.1 hentered
    have hlookup : entries.lookup name = some below := lookup_of_mem hnodup hmem
    refine ⟨⟨bytes, Option.bind_eq_some_iff.2 ⟨below, hlookup, hat⟩⟩, ⟨last, ?_, hsuffix⟩, ?_⟩
    · rwa [List.getLast?_cons_cons]
    · rw [List.dropLast_cons_cons, List.mem_cons, not_or]
      exact ⟨Ne.symm (of_decide_eq_true hname), hvisible⟩

/-- Exactly the names of what is listed are given. -/
theorem mem_filesOf_iff (h : e.IsTree) (above : List String) :
    names ∈ filesOf suffixes above e ↔
      ∃ below, names = above ++ below ∧ Listed suffixes e below := by
  induction h generalizing above names with
  -- a file has no entries, so nothing is listed below it
  | file bytes =>
    refine iff_of_false List.not_mem_nil ?_
    rintro ⟨below, -, hlisted⟩
    obtain ⟨name, rest, rfl⟩ := List.exists_cons_of_ne_nil hlisted.ne_nil
    obtain ⟨_, hat⟩ := hlisted.file
    cases hat
  | @folder entries hnodup _ hbelow ih =>
    rw [filesOf_folder, List.mem_append, List.mem_map, List.mem_flatMap]
    simp only [mem_inOrder, List.mem_filter]
    constructor
    -- files of the directory itself, and files of directories that are entered
    · rintro (⟨entry, ⟨hmem, htemplate⟩, rfl⟩ | ⟨entry, ⟨hmem, hentered⟩, hnames⟩)
      · exact ⟨[entry.1], rfl, (listed_singleton_iff hnodup).2 ⟨entry, hmem, htemplate, rfl⟩⟩
      · obtain ⟨below, rfl, hlisted⟩ := (ih entry hmem _).1 hnames
        refine ⟨entry.1 :: below, by simp, ?_⟩
        exact (listed_cons_iff hnodup hlisted.ne_nil).2 ⟨entry, hmem, hentered, rfl, hlisted⟩
    · rintro ⟨below, rfl, hlisted⟩
      obtain ⟨name, rest, rfl⟩ := List.exists_cons_of_ne_nil hlisted.ne_nil
      by_cases hrest : rest = []
      · subst hrest
        obtain ⟨entry, hmem, htemplate, rfl⟩ := (listed_singleton_iff hnodup).1 hlisted
        exact .inl ⟨entry, ⟨hmem, htemplate⟩, rfl⟩
      · obtain ⟨entry, hmem, hentered, rfl, hdeep⟩ := (listed_cons_iff hnodup hrest).1 hlisted
        exact .inr ⟨entry, ⟨hmem, hentered⟩, (ih entry hmem _).2 ⟨rest, by simp, hdeep⟩⟩

/-- The names are in order, and so each is given once. -/
theorem pairwise_filesOf (h : e.IsTree) (above : List String) :
    (filesOf suffixes above e).Pairwise Precedes := by
  induction h generalizing above with
  | file bytes => exact List.Pairwise.nil
  | @folder entries hnodup _ hbelow ih =>
    have hnames (p : String × Entry → Bool) : ((entries.filter p).map Prod.fst).Nodup :=
      hnodup.sublist (List.filter_sublist.map Prod.fst)
    have hentered {entry : String × Entry} (hentry : entry ∈ inOrder (entries.filter isEntered)) :
        entry ∈ entries := (List.mem_filter.1 (mem_inOrder.1 hentry)).1
    -- what a directory gives has more names than the one of the directory
    have hdeep {entry : String × Entry} (hentry : entry ∈ inOrder (entries.filter isEntered))
        {names : List String} (h : names ∈ filesOf suffixes (above ++ [entry.1]) entry.2) :
        ∃ next rest, names = above ++ entry.1 :: next :: rest := by
      obtain ⟨below, rfl, hlisted⟩ := (mem_filesOf_iff (hbelow _ (hentered hentry)) _).1 h
      obtain ⟨next, rest, rfl⟩ := List.exists_cons_of_ne_nil hlisted.ne_nil
      exact ⟨next, rest, by simp⟩
    rw [filesOf_folder, List.pairwise_append]
    refine ⟨?_, ?_, ?_⟩
    · exact List.pairwise_map.2 ((pairwise_inOrder (hnames _)).imp fun hlt =>
        (Precedes.files hlt).append_left above)
    · refine List.pairwise_flatMap.2 ⟨fun entry hentry => ih entry (hentered hentry) _, ?_⟩
      refine (pairwise_inOrder (hnames _)).imp_of_mem fun hentry hother hlt => ?_
      intro names hmem others hmem'
      obtain ⟨next, rest, rfl⟩ := hdeep hentry hmem
      obtain ⟨next', rest', rfl⟩ := hdeep hother hmem'
      exact (Precedes.folders hlt next next' rest rest').append_left above
    · intro names hfile others hother
      obtain ⟨file, -, rfl⟩ := List.mem_map.1 hfile
      obtain ⟨entry, hentry, hmem⟩ := List.mem_flatMap.1 hother
      obtain ⟨next, rest, rfl⟩ := hdeep hentry hmem
      exact (Precedes.fileFirst file.1 entry.1 next rest).append_left above

end Mustache.Folder
