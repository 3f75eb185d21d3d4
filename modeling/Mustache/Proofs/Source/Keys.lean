import Mustache.Proofs.Source.Listing

/-!
# The keys that listing gives

Listing gives the key of every file below the root that ends in a suffix, is not below a skipped
directory, lies in a directory that can be opened, and is picked; each key once, in the order of the
walk. What is listed is found again under its key, before any file with a suffix behind that key.
Three things keep it from being found, of which listing does not tell: a suffix that cannot be put
behind the last name, a root that leads nowhere, and a path that is too long.
-/

namespace Mustache

namespace Folder

variable {reader : PatternReader} {f : Folder} {d : Disk} {patterns : Option (List String)}
  {names : List String}

/-- Patterns pick a key: all of them are blank, or what the reader makes of the others picks it. -/
inductive Picks (reader : PatternReader) (patterns : Option (List String)) (key : String) : Prop
  | all (h : filledPatterns patterns = [])
  | some {pick : String → Bool} (hfilled : filledPatterns patterns ≠ [])
    (hread : reader (filledPatterns patterns) = .ok pick) (h : pick key = true)

/-- The names of a file that listing gives the key of. -/
structure Lists (f : Folder) (reader : PatternReader) (d : Disk) (patterns : Option (List String))
    (names : List String) : Prop where
  file : ∃ bytes, d.root.at? ((f.top d).names ++ names) = some (.file bytes)
  suffix : ∃ last, names.getLast? = some last ∧ hasSuffix f.suffixes last = true
  visible : skipped ∉ names.dropLast
  inReach : isInReach (f.top d) names = true
  picked : Picks reader patterns (String.intercalate "/" names)

/-- What keeps a file that is listed from being found. -/
inductive Unfindable (f : Folder) (d : Disk) (key : String) : Prop
  | suffix {suffix : String} (hmem : suffix ∈ f.suffixes)
    (h : (f.pathOf key).withSuffix? suffix = none)
  | root {problem : DiskProblem} (h : d.locate f.root = .error problem)
  | tooLong (h : Disk.longestPath < (f.pathOf key).text.utf8ByteSize)

/-- A key stands for the file at some names below the root, whatever other files there are. -/
structure Finds (f : Folder) (d : Disk) (key : String) (names : List String) : Prop where
  find : f.find d key = .ok (some (f.pathOf key))
  locate : ∃ bytes, d.locate (f.pathOf key) = .ok ⟨(f.top d).names ++ names, .file bytes⟩

/-! ## The top -/

/-- The top is a way down from the root of the disk. -/
theorem top_namesFrom (f : Folder) (d : Disk) :
    (f.top d).namesFrom d.current = (f.top d).names := by
  have hnone : ".." ∉ (f.top d).names :=
    Disk.above_not_mem_foldl_behind List.not_mem_nil _
  exact Disk.foldl_behind_of_not_mem [] hnone

/-! ## The files -/

/-- The names of all files that listing comes to. -/
def walked (f : Folder) (d : Disk) : List (List String) :=
  match d.locate (f.top d) with
  | .error _ => []
  | .ok place => (filesOf f.suffixes [] place.entry).filter (isInReach (f.top d))

/-- Whether the key of some names is picked. -/
def isPicked (pick? : Option (String → Bool)) (names : List String) : Bool :=
  match pick? with
  | none => true
  | some pick => pick (String.intercalate "/" names)

/-- Listing is walking the folder, picking among what was found, and joining the names. -/
theorem list_eq {pick? : Option (String → Bool)} (hroot : f.root.holdsNull = false)
    (hpick : picker? reader patterns = .ok pick?) :
    f.list reader d patterns =
      .ok (((f.walked d).filter (isPicked pick?)).map (String.intercalate "/")) := by
  unfold list
  rw [hpick]
  dsimp only
  rw [hroot, if_neg Bool.false_ne_true]
  cases pick? with
  | none =>
    have hall : (f.walked d).filter (isPicked none) = f.walked d :=
      List.filter_eq_self.2 fun _ _ => rfl
    rw [hall]
    rfl
  | some pick =>
    exact congrArg Except.ok List.filter_map

/-- A file is picked exactly when the reader of patterns picks its key. -/
theorem isPicked_iff {pick? : Option (String → Bool)}
    (hpick : picker? reader patterns = .ok pick?) :
    isPicked pick? names = true ↔ Picks reader patterns (String.intercalate "/" names) := by
  unfold picker? at hpick
  cases hlines : filledPatterns patterns with
  | nil =>
    rw [hlines] at hpick
    obtain rfl := Except.ok.inj hpick
    exact iff_of_true rfl (.all hlines)
  | cons line lines =>
    have hfilled : filledPatterns patterns ≠ [] := by simp [hlines]
    rw [hlines] at hpick
    obtain ⟨pick, hread, rfl⟩ := map_eq_ok_iff.1 hpick
    rw [← hlines] at hread
    refine ⟨.some hfilled hread, ?_⟩
    rintro (hblank | ⟨-, hread', h⟩)
    · exact absurd hblank hfilled
    · obtain rfl := Except.ok.inj (hread'.symm.trans hread)
      exact h

section
variable (hd : d.root.IsTree)
include hd

/-- The names that lead to a file below the top can be followed. -/
theorem isFileName_of_at? {above : List String} {entry : Entry}
    (h : d.root.at? (above ++ names) = some entry) : ∀ name ∈ names, Path.IsFileName name :=
  fun name hname => (hd.at? h).1 name (List.mem_append_right above hname)

/-- Listing comes to exactly the files below the top that it is to give. -/
theorem mem_walked_iff :
    names ∈ f.walked d ↔
      (∃ bytes, d.root.at? ((f.top d).names ++ names) = some (.file bytes)) ∧
        (∃ last, names.getLast? = some last ∧ hasSuffix f.suffixes last = true) ∧
          skipped ∉ names.dropLast ∧ isInReach (f.top d) names = true := by
  unfold walked
  split
  -- nothing can be opened at the top, and so nothing below it
  · next problem hproblem =>
    refine iff_of_false List.not_mem_nil ?_
    rintro ⟨⟨bytes, hat⟩, -, -, hreach⟩
    have hfile := (hd.at? hat).1
    obtain ⟨entry, htop, -⟩ :=
      Option.bind_eq_some_iff.1 ((Entry.at?_append _ names d.root).symm.trans hat)
    have hnames : ∀ name ∈ names.dropLast, name ≠ "" := fun name hname =>
      (hfile name (List.mem_append_right _ (List.dropLast_subset _ hname))).isName.1
    have hlocate := Disk.locate_of_at? (hd.at? htop).1 htop
      (Nat.le_trans (Path.size_text_le 1 _ hnames) (of_decide_eq_true hreach))
    exact nomatch hproblem.symm.trans hlocate
  · next place hplace =>
    obtain ⟨hplaceNames, hplaceAt⟩ := Disk.at?_of_locate hplace
    rw [top_namesFrom] at hplaceNames
    rw [hplaceNames] at hplaceAt
    rw [List.mem_filter, mem_filesOf_iff (hd.at? hplaceAt).2, Entry.at?_append, hplaceAt,
      Option.bind_some]
    constructor
    · rintro ⟨⟨_, rfl, hlisted⟩, hreach⟩
      exact ⟨hlisted.file, hlisted.suffix, hlisted.visible, hreach⟩
    · rintro ⟨hfile, hsuffix, hvisible, hreach⟩
      exact ⟨⟨names, rfl, hfile, hsuffix, hvisible⟩, hreach⟩

/-- Files are walked in order, each of them once. -/
theorem pairwise_walked (f : Folder) : (f.walked d).Pairwise Precedes := by
  unfold walked
  split
  · exact List.Pairwise.nil
  · next place hplace =>
    obtain ⟨-, hplaceAt⟩ := Disk.at?_of_locate hplace
    exact (pairwise_filesOf (hd.at? hplaceAt).2 []).filter _

/-- The key of a file that is listed is read back as its names. -/
theorem Lists.pathOf_eq (h : f.Lists reader d patterns names) :
    f.pathOf (String.intercalate "/" names) = f.root.join ⟨0, names⟩ := by
  obtain ⟨bytes, hat⟩ := h.file
  have hne : names ≠ [] := by
    rintro rfl
    obtain ⟨last, hlast, -⟩ := h.suffix
    cases hlast
  rw [pathOf, Path.ofString_intercalate hne fun name hname =>
    (isFileName_of_at? hd hat name hname).isName]

/-! ## Finding what is listed -/

/-- What is listed is found under its key if nothing keeps it from being found. -/
theorem Lists.finds (h : f.Lists reader d patterns names)
    (hfindable : ¬f.Unfindable d (String.intercalate "/" names)) :
    f.Finds d (String.intercalate "/" names) names := by
  obtain ⟨bytes, hat⟩ := h.file
  have hpath := h.pathOf_eq hd
  cases hroot : d.locate f.root with
  | error problem => exact absurd (.root hroot) hfindable
  | ok top =>
    obtain ⟨htopNames, htop⟩ := Disk.at?_of_locate hroot
    have hshort : (f.root.join ⟨0, names⟩).text.utf8ByteSize ≤ Disk.longestPath :=
      Nat.not_lt.1 fun hlong => hfindable (.tooLong (hpath ▸ hlong))
    have hbelow : top.entry.at? names = some (.file bytes) := by
      have hsplit := (Entry.at?_append top.names names d.root).symm
      rw [htop, Option.bind_some] at hsplit
      exact hsplit.trans (htopNames ▸ hat)
    have hlocate := Disk.locate_join hroot (isFileName_of_at? hd hat) hbelow hshort
    rw [← hpath, htopNames] at hlocate
    have hread : d.read (f.pathOf (String.intercalate "/" names)) = .ok bytes := by
      rw [Disk.read, hlocate]
    obtain ⟨more, hpaths⟩ := exists_candidates fun suffix hmem hsuffix =>
      hfindable (.suffix hmem hsuffix)
    -- the key without a suffix is the first path that is tried
    have htries : f.Tries d (String.intercalate "/" names)
        (f.pathOf (String.intercalate "/" names)) := ⟨_, hpaths, .first⟩
    exact ⟨htries.find_of_isFile (Disk.isFile_eq_true_iff.2 ⟨bytes, hread⟩), bytes, hlocate⟩

/-- What keeps a file from being found does so. -/
theorem Lists.not_finds (h : f.Lists reader d patterns names)
    (hunfindable : f.Unfindable d (String.intercalate "/" names)) :
    ¬f.Finds d (String.intercalate "/" names) names := by
  rintro ⟨hfind, bytes, hlocate⟩
  cases hunfindable with
  | suffix hmem hsuffix =>
    rw [find, candidates_of_withSuffix?_none hmem hsuffix] at hfind
    cases hfind
  | root hroot =>
    obtain ⟨_, hat⟩ := h.file
    rw [h.pathOf_eq hd] at hlocate
    obtain ⟨top, htop⟩ := Disk.exists_locate_of_join
      (fun name hname => (isFileName_of_at? hd hat name hname).isName.1) hlocate
    rw [hroot] at htop
    cases htop
  | tooLong hlong =>
    obtain ⟨-, hshort, -⟩ := Disk.locate_eq_ok_iff.1 hlocate
    exact Nat.not_le.2 hlong hshort

end

/-- Listing gives the keys of exactly the files that end in a suffix, are not below a skipped
directory, lie in reach and are picked, each once and in the order of the walk, whatever it is that
the reader of patterns makes of them. Each is found under its key, unless a suffix cannot be put
behind the key, the root leads nowhere or the path is too long. -/
theorem list_exact (hd : d.root.IsTree) (hroot : f.root.holdsNull = false)
    {pick? : Option (String → Bool)} (hpick : picker? reader patterns = .ok pick?) :
    ∃ files : List (List String),
      f.list reader d patterns = .ok (files.map (String.intercalate "/")) ∧
        files.Pairwise Precedes ∧ (files.map (String.intercalate "/")).Nodup ∧
        (∀ names, names ∈ files ↔ f.Lists reader d patterns names) ∧
        ∀ names ∈ files, f.Finds d (String.intercalate "/" names) names ↔
          ¬f.Unfindable d (String.intercalate "/" names) := by
  have hlists (names : List String) :
      names ∈ (f.walked d).filter (isPicked pick?) ↔ f.Lists reader d patterns names := by
    rw [List.mem_filter, mem_walked_iff hd, isPicked_iff hpick]
    constructor
    · rintro ⟨⟨hfile, hsuffix, hvisible, hreach⟩, hpicked⟩
      exact ⟨hfile, hsuffix, hvisible, hreach, hpicked⟩
    · rintro ⟨hfile, hsuffix, hvisible, hreach, hpicked⟩
      exact ⟨⟨hfile, hsuffix, hvisible, hreach⟩, hpicked⟩
  have horder : ((f.walked d).filter (isPicked pick?)).Pairwise Precedes :=
    (pairwise_walked hd f).filter _
  refine ⟨_, list_eq hroot hpick, horder, ?_, hlists, fun names hnames => ?_⟩
  -- equal keys are read to equal paths, and no file precedes itself
  · refine List.pairwise_map.2 (horder.imp_of_mem fun hnames hothers hprecedes heq => ?_)
    have hread := ((hlists _).1 hnames).pathOf_eq hd
    rw [heq, ((hlists _).1 hothers).pathOf_eq hd] at hread
    obtain rfl := List.append_cancel_left (congrArg Path.names hread)
    exact hprecedes.irrefl
  · have hlisted := (hlists names).1 hnames
    exact ⟨fun hfinds hunfindable => hlisted.not_finds hd hunfindable hfinds, hlisted.finds hd⟩

/-- Files come before what is in directories, and what is skipped is not gone into. -/
example : usual.list (fun _ => .error .incomplete) ⟨.folder
    [(".git", .folder [("a.mustache", .file [])]),
    ("b", .folder [("a.mustache", .file [])]), ("c.mustache", .file [])], []⟩ none =
      .ok ["c.mustache", "b/a.mustache"] := by
  decide +kernel

/-- A disk with a file whose name is that of another one with a suffix more. -/
def suffixedTemplate : Disk :=
  ⟨.folder [("a.mustache", .file [65]), ("a.mustache.mustache", .file [66])], []⟩

theorem isTree_suffixedTemplate : suffixedTemplate.root.IsTree := by
  refine .folder (by decide +kernel) (by decide +kernel) ?_
  rintro _ (_ | ⟨_, _ | ⟨_, ⟨⟩⟩⟩)
  · exact .file _
  · exact .file _

/-- A reader for which patterns pick what they name. -/
def allNamed : PatternReader := fun lines => .ok (lines.contains ·)

/-- A file is found under its key beside one with a suffix more. -/
theorem list_exact_suffixed : usual.Finds suffixedTemplate "a.mustache" ["a.mustache"] := by
  have hroot : usual.root.holdsNull = false := rfl
  have hpick : picker? allNamed (some ["a.mustache"]) =
      .ok (some (["a.mustache"].contains ·)) := rfl
  obtain ⟨files, -, -, -, hlists, hfinds⟩ := list_exact isTree_suffixedTemplate hroot hpick
  have hmem : ["a.mustache"] ∈ files :=
    (hlists _).2 ⟨⟨[65], rfl⟩, ⟨"a.mustache", rfl, rfl⟩, by decide, by decide +kernel,
      .some (by decide) rfl rfl⟩
  refine (hfinds _ hmem).2 ?_
  rintro (⟨hsuffix, hnone⟩ | hroot | hlong)
  · have hsome : ∀ suffix ∈ usual.suffixes,
        (usual.pathOf "a.mustache").withSuffix? suffix ≠ none := by decide +kernel
    exact hsome _ hsuffix hnone
  · have hopen : suffixedTemplate.locate usual.root = .ok ⟨[], suffixedTemplate.root⟩ := rfl
    exact nomatch hroot.symm.trans hopen
  · exact absurd hlong (by decide +kernel)

/-- A folder with a suffix that cannot be put behind a name. -/
def slashed : Folder := ⟨.ofString ".", [".mustache", ".a/b"], "utf-8"⟩

/-- With such a suffix a template is listed and not found. -/
theorem listed_not_found_of_slash :
    slashed.list allNamed oneTemplate none = .ok ["a.mustache"] ∧
      slashed.find oneTemplate "a.mustache" = .error .invalidPath :=
  ⟨by decide +kernel, by decide +kernel⟩

end Folder

end Mustache
