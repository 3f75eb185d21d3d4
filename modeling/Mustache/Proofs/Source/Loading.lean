import Mustache.Proofs.Disk.Reading
import Mustache.Proofs.Engine.Faithful
import Mustache.Settings

/-!
# What loading from a folder can come to

Loading answers if it gives a text or tells that there is none for the key. The paths that a key can
stand for are looked at one after another, up to the first one at which there is a file. Four things
are not foreseen on the way: a suffix that cannot be put behind the last name, a path with too long
a name, a name of no encoding whose characters are known here, and bytes that should start with a
mark and do not. Without them every key is answered, and so is every tag that includes it.
-/

namespace Mustache

/-! ## Decoding -/

namespace Text

/-- What keeps bytes from being a text: their mark is missing, or there is a fault among them. -/
def IsOfBytes (problem : EncodingProblem) : Prop :=
  problem = .unmarked ∨ ∃ fault, problem = .fault fault

/-- A fault among the bytes is of the bytes. -/
theorem isOfBytes_of_mapError {x : Decoded} {problem : EncodingProblem}
    (h : x.mapError .fault = .error problem) : IsOfBytes problem := by
  obtain ⟨fault, -, rfl⟩ := mapError_eq_error_iff.1 h
  exact .inr ⟨fault, rfl⟩

/-- A missing mark is of the bytes as well. -/
theorem isOfBytes_of_decodeMarked {mark? : Option ByteOrder} {width : Nat}
    {decodeFrom : ByteOrder → Nat → List UInt8 → Decoded} {bytes : List UInt8}
    {problem : EncodingProblem} (h : decodeMarked mark? width decodeFrom bytes = .error problem) :
    IsOfBytes problem := by
  unfold decodeMarked at h
  split at h
  · exact isOfBytes_of_mapError h
  · split at h
    · cases h
      exact .inr ⟨_, rfl⟩
    · split at h
      · cases h
      · cases h
        exact .inl rfl

/-- Decoding has no other problems than those of the bytes, once the encoding is known. -/
theorem isOfBytes_of_decode {encoding : Encoding} {bytes : List UInt8} {problem : EncodingProblem}
    (h : decode encoding bytes = .error problem) : IsOfBytes problem := by
  unfold decode at h
  split at h
  · exact isOfBytes_of_mapError h
  · exact isOfBytes_of_mapError h
  · exact isOfBytes_of_mapError h
  · exact isOfBytes_of_decodeMarked h
  · exact isOfBytes_of_mapError h
  · exact isOfBytes_of_decodeMarked h
  · exact isOfBytes_of_mapError h
  · cases h
  · exact isOfBytes_of_mapError h

end Text

namespace Folder

/-- Loading gives a text, or tells that there is none for the key. -/
def Answers (key : String) : Except Fault Loaded → Prop
  | .ok _ => True
  | .error fault => ∃ reason, fault = .unavailable key reason

/-- The path of a key without a suffix. -/
def pathOf (f : Folder) (key : String) : Path := f.root.join (.ofString key)

/-- A path among some that is looked at: there is no file at any before it. -/
inductive LooksAt (d : Disk) : List Path → Path → Prop
  | first {p : Path} {rest : List Path} : LooksAt d (p :: rest) p
  | later {p q : Path} {rest : List Path} (hq : d.isFile q = .ok false) (h : LooksAt d rest p) :
    LooksAt d (q :: rest) p

/-- A path that is looked at for a key. -/
def Tries (f : Folder) (d : Disk) (key : String) (p : Path) : Prop :=
  ∃ paths, f.candidates key = .ok paths ∧ LooksAt d paths p

/-- What loading does not foresee of a key. -/
inductive Unforeseen (f : Folder) (d : Disk) (key : String) : Prop
  | suffix {suffix : String} (hmem : suffix ∈ f.suffixes)
    (h : (f.pathOf key).withSuffix? suffix = none)
  | tooLong {p : Path} (hp : f.Tries d key p) (h : d.locate p = .error .nameTooLong)
  | encoding {p : Path} {bytes : List UInt8} {problem : EncodingProblem} (hp : f.Tries d key p)
    (hread : d.read p = .ok bytes) (h : Encoding.ofName f.encoding = .error problem)
  | unmarked {p : Path} {bytes : List UInt8} {encoding : Encoding} (hp : f.Tries d key p)
    (hread : d.read p = .ok bytes) (hencoding : Encoding.ofName f.encoding = .ok encoding)
    (h : Text.decode encoding bytes = .error .unmarked)

variable {f : Folder} {d : Disk} {key : String} {p : Path} {paths : List Path}

/-! ## Finding the file -/

/-- One suffix that cannot be put behind the last name spoils all paths of a key. -/
theorem candidates_of_withSuffix?_none {suffix : String} (hmem : suffix ∈ f.suffixes)
    (h : (f.pathOf key).withSuffix? suffix = none) : f.candidates key = .error .invalidPath := by
  refine if_pos ?_
  rw [List.any_map, List.any_eq_true]
  exact ⟨suffix, hmem, Option.isNone_iff_eq_none.2 h⟩

/-- Otherwise the first path of a key is the one without a suffix. -/
theorem exists_candidates (h : ∀ suffix ∈ f.suffixes, (f.pathOf key).withSuffix? suffix ≠ none) :
    ∃ more, f.candidates key = .ok (f.pathOf key :: more) := by
  refine ⟨_, if_neg fun hnone => ?_⟩
  rw [List.any_map, List.any_eq_true] at hnone
  obtain ⟨suffix, hmem, hsuffix⟩ := hnone
  exact h suffix hmem (Option.isNone_iff_eq_none.1 hsuffix)

/-- The first file is the one at which the looking ends. -/
theorem LooksAt.firstFile_of_isFile (h : LooksAt d paths p) (hp : d.isFile p = .ok true) :
    firstFile d paths = .ok (some p) := by
  induction h with
  | first => rw [firstFile, hp]
  | later hq _ ih =>
    rw [firstFile, hq]
    exact ih hp

/-- A path that cannot be looked at ends the looking with its fault. -/
theorem LooksAt.firstFile_of_error (h : LooksAt d paths p) {fault : DiskFault}
    (hp : d.isFile p = .error fault) : firstFile d paths = .error (.disk fault) := by
  induction h with
  | first => rw [firstFile, hp]
  | later hq _ ih =>
    rw [firstFile, hq]
    exact ih hp

/-- Looking at paths ends behind the last one, at a file or at a path that cannot be looked at. -/
theorem firstFile_cases (d : Disk) (paths : List Path) :
    firstFile d paths = .ok none ∨
      ∃ p, LooksAt d paths p ∧ (d.isFile p = .ok true ∨ ∃ fault, d.isFile p = .error fault) := by
  induction paths with
  | nil => exact .inl rfl
  | cons q rest ih =>
    cases hq : d.isFile q with
    | error fault => exact .inr ⟨q, .first, .inr ⟨fault, hq⟩⟩
    | ok isThere =>
      cases isThere with
      | true => exact .inr ⟨q, .first, .inl hq⟩
      | false =>
        rcases ih with hnone | ⟨p, hp, hend⟩
        · rw [firstFile, hq]
          exact .inl hnone
        · exact .inr ⟨p, .later hq hp, hend⟩

theorem Tries.find_of_isFile (h : f.Tries d key p) (hp : d.isFile p = .ok true) :
    f.find d key = .ok (some p) := by
  obtain ⟨paths, hpaths, hlooks⟩ := h
  rw [find, hpaths]
  exact hlooks.firstFile_of_isFile hp

theorem Tries.find_of_error (h : f.Tries d key p) {fault : DiskFault}
    (hp : d.isFile p = .error fault) : f.find d key = .error (.disk fault) := by
  obtain ⟨paths, hpaths, hlooks⟩ := h
  rw [find, hpaths]
  exact hlooks.firstFile_of_error hp

theorem isFile_of_find (h : f.find d key = .ok (some p)) : d.isFile p = .ok true := by
  unfold find at h
  split at h
  · cases h
  next paths _ =>
  rcases firstFile_cases d paths with hnone | ⟨q, hq, hfile | ⟨fault, hfault⟩⟩
  · cases hnone.symm.trans h
  · cases (hq.firstFile_of_isFile hfile).symm.trans h
    exact hfile
  · cases (hq.firstFile_of_error hfault).symm.trans h

/-! ## Loading -/

section
variable {bytes : List UInt8} {encoding : Encoding}

/-- Without an encoding no file is loaded. -/
theorem Tries.load_of_no_encoding (h : f.Tries d key p) (hread : d.read p = .ok bytes)
    {problem : EncodingProblem} (hencoding : Encoding.ofName f.encoding = .error problem) :
    f.load d key = .error (.encoding problem) := by
  have hfind := h.find_of_isFile (Disk.isFile_eq_true_iff.2 ⟨bytes, hread⟩)
  simp only [load, hfind, hencoding]

/-- Bytes that are a text are loaded with one kind of line ending. -/
theorem Tries.load_of_text (h : f.Tries d key p) (hread : d.read p = .ok bytes)
    (hencoding : Encoding.ofName f.encoding = .ok encoding) {s : List Char}
    (hdecode : Text.decode encoding bytes = .ok s) :
    f.load d key = .ok ⟨String.ofList (Text.unifyLines s), some p.text⟩ := by
  have hfind := h.find_of_isFile (Disk.isFile_eq_true_iff.2 ⟨bytes, hread⟩)
  simp only [load, hfind, hencoding, hread, hdecode]

/-- A fault among the bytes is told of as what keeps the key from being loaded. -/
theorem Tries.load_of_fault (h : f.Tries d key p) (hread : d.read p = .ok bytes)
    (hencoding : Encoding.ofName f.encoding = .ok encoding) {fault : DecodeFault}
    (hdecode : Text.decode encoding bytes = .error (.fault fault)) :
    f.load d key = .error (.unavailable key fault.message) := by
  have hfind := h.find_of_isFile (Disk.isFile_eq_true_iff.2 ⟨bytes, hread⟩)
  simp only [load, hfind, hencoding, hread, hdecode]

/-- A missing mark is not told of that way. -/
theorem Tries.load_of_unmarked (h : f.Tries d key p) (hread : d.read p = .ok bytes)
    (hencoding : Encoding.ofName f.encoding = .ok encoding)
    (hdecode : Text.decode encoding bytes = .error .unmarked) :
    f.load d key = .error (.encoding .unmarked) := by
  have hfind := h.find_of_isFile (Disk.isFile_eq_true_iff.2 ⟨bytes, hread⟩)
  simp only [load, hfind, hencoding, hread, hdecode]

end

/-- Nothing is told of what loading does not foresee. -/
theorem Unforeseen.not_answers (h : f.Unforeseen d key) : ¬Answers key (f.load d key) := by
  cases h with
  | suffix hmem hsuffix =>
    rw [load, find, candidates_of_withSuffix?_none hmem hsuffix]
    simp [Answers]
  | tooLong hp hlong =>
    rw [load, hp.find_of_error (Disk.isFile_eq_error_iff.2 ⟨hlong, rfl⟩)]
    simp [Answers]
  | encoding hp hread hencoding =>
    rw [hp.load_of_no_encoding hread hencoding]
    simp [Answers]
  | unmarked hp hread hencoding hdecode =>
    rw [hp.load_of_unmarked hread hencoding hdecode]
    simp [Answers]

/-- Loading foresees everything else. -/
theorem answers_of_not_unforeseen (h : ¬f.Unforeseen d key) : Answers key (f.load d key) := by
  obtain ⟨more, hpaths⟩ := exists_candidates fun suffix hmem hsuffix =>
    h (.suffix hmem hsuffix)
  rcases firstFile_cases d (f.pathOf key :: more) with hnone | ⟨p, hlooks, hfile | ⟨fault, hfault⟩⟩
  -- no path leads to a file
  · rw [load, find, hpaths]
    dsimp only
    rw [hnone]
    exact ⟨_, rfl⟩
  -- the file at `p` is read and decoded
  · have hp : f.Tries d key p := ⟨_, hpaths, hlooks⟩
    obtain ⟨bytes, hread⟩ := Disk.isFile_eq_true_iff.1 hfile
    cases hencoding : Encoding.ofName f.encoding with
    | error problem => exact absurd (.encoding hp hread hencoding) h
    | ok encoding =>
      cases hdecode : Text.decode encoding bytes with
      | ok s =>
        rw [hp.load_of_text hread hencoding hdecode]
        trivial
      | error problem =>
        rcases Text.isOfBytes_of_decode hdecode with rfl | ⟨fault, rfl⟩
        · exact absurd (.unmarked hp hread hencoding hdecode) h
        · rw [hp.load_of_fault hread hencoding hdecode]
          exact ⟨_, rfl⟩
  · exact absurd (.tooLong ⟨_, hpaths, hlooks⟩ (Disk.isFile_eq_error_iff.1 hfault).1) h

/-- A key with a last name is answered if no suffix has a slash in it, the paths that are looked at
are short, and the texts are in UTF-8. -/
theorem answers_of_short {last : String} (hlast : (f.pathOf key).names.getLast? = some last)
    (hname : Path.IsName last) (hsuffixes : ∀ suffix ∈ f.suffixes, '/' ∉ suffix.toList)
    (hpaths : ∀ p, f.Tries d key p → p.text.utf8ByteSize ≤ Disk.longestPath ∧
      ∀ name ∈ d.current ++ p.names, Disk.nameSize name ≤ Disk.longestName)
    (hencoding : Encoding.ofName f.encoding = .ok .utf8) : Answers key (f.load d key) := by
  refine answers_of_not_unforeseen fun h => ?_
  cases h with
  | suffix hmem hsuffix => exact Path.withSuffix?_ne_none hlast hname (hsuffixes _ hmem) hsuffix
  | tooLong hp hlong =>
    obtain ⟨hpath, hnames⟩ := hpaths _ hp
    exact Disk.locate_ne_nameTooLong hpath hnames hlong
  | encoding hp hread h => cases hencoding.symm.trans h
  | unmarked hp hread h hdecode =>
    cases hencoding.symm.trans h
    obtain ⟨fault, -, hfault⟩ := mapError_eq_error_iff.1 hdecode
    cases hfault

/-! ## Including -/

/-- What becomes of a tag that includes a name: its template is walked or has a mistake; or there is
no text for it, which ends the walk or is passed over with a warning. -/
inductive Included (f : Folder) (d : Disk) (strict : Bool)
    (enter : Scope → Template → Walk Cache Unit) (scope : Scope) (name : String)
    (p : Progress Cache) : Except Fault Unit × Progress Cache → Prop
  | entered {text : String} {t : Template} {q : Progress Cache}
    (htext : (f.load d name).map Loaded.text = .ok text) (ht : Template.compile text name = .ok t)
    (hsink : q.sink = p.sink) (hmemory : q.memory = p.memory)
    (hwarnings : Notice.warnings q.notices = Notice.warnings p.notices) :
    Included f d strict enter scope name p (enter scope t q)
  | malformed {text : String} {e : SyntaxError} {q : Progress Cache}
    (htext : (f.load d name).map Loaded.text = .ok text)
    (he : Template.compile text name = .error e) :
    Included f d strict enter scope name p (.error (.malformed e), q)
  | refused {reason : String} {q : Progress Cache} (hstrict : strict = true)
    (hload : f.load d name = .error (.unavailable name reason)) :
    Included f d strict enter scope name p (.error (.unavailable name reason), q)
  | skipped {reason : String} {q : Progress Cache} (hlenient : strict = false)
    (hload : f.load d name = .error (.unavailable name reason)) (hsink : q.sink = p.sink)
    (hmemory : q.memory = p.memory)
    (hwarnings : Notice.warnings q.notices =
      Notice.warnings p.notices ++ [(Notice.missingInclusion name).message]) :
    Included f d strict enter scope name p (.ok (), q)

end Folder

/-- A tag that includes a name looks it up and walks what is found. -/
theorem Walk.node_inclusion {Library : Type} (finder : Finder Library)
    (enter : Scope → Template → Walk Library Unit) (scope : Scope) (name : String)
    (p : Progress Library) :
    node finder enter scope (.inclusion name) p =
      let found := finder name p.library
      let q := { p with library := found.library, notices := p.notices ++ found.notices }
      match found.template with
      | .error fault => (.error fault, q)
      | .ok none => (.ok (), q)
      | .ok (some t) =>
        enter scope t { q with notices := q.notices ++ [.including name scope.depth] } := by
  rw [node, bind_apply, find]
  dsimp only
  cases (finder name p.library).template with
  | error fault => rfl
  | ok t? =>
    cases t? with
    | none => rfl
    | some t =>
      dsimp only
      rw [bind_apply]
      rfl

namespace Folder

variable {strict : Bool} {enter : Scope → Template → Walk Cache Unit} {scope : Scope}

/-- A name for which loading answers is included or skipped. -/
theorem included_of_answers {q : Progress Cache} (h : Answers key (f.load d key))
    (hcache : q.library.Faithful ((Source.folder f).loader d)) :
    Included f d strict enter scope key q
      (Walk.node (Engine.finder (.folder f) strict d) enter scope (.inclusion key) q) := by
  rw [Walk.node_inclusion]
  dsimp only
  cases hload : f.load d key with
  -- a text that is loaded is entered, or refused for its own errors
  | ok loaded =>
    have htext : (f.load d key).map Loaded.text = .ok loaded.text := by rw [hload]; rfl
    obtain ⟨hfound, hwarnings, -⟩ := hcache.finder_of_load_ok strict htext
    rw [hfound]
    cases ht : Template.compile loaded.text key with
    | error e => exact .malformed htext ht
    | ok t =>
      refine .entered htext ht rfl rfl ?_
      rw [Notice.warnings_append, Notice.warnings_append, hwarnings]
      exact (List.append_nil _).trans (List.append_nil _)
  -- a key without a text is refused or passed over, as the mode says
  | error fault =>
    rw [hload] at h
    obtain ⟨reason, rfl⟩ := h
    obtain ⟨hfound, hwarnings, -⟩ := hcache.finder_of_load_error strict hload
    rw [hfound]
    cases strict with
    | true => exact .refused rfl hload
    | false =>
      refine .skipped rfl hload rfl rfl ?_
      rw [Notice.warnings_append, hwarnings]
      rfl

/-- Loading from a folder answers unless a suffix cannot be put behind the key, a path that is
looked at has too long a name, no encoding with known characters has the name, or the bytes lack
their mark. A tag that includes a name that is answered is walked, refused or passed over with a
warning. -/
theorem load_foreseen (f : Folder) (d : Disk) (key : String) :
    (Answers key (f.load d key) ↔ ¬f.Unforeseen d key) ∧
      (¬f.Unforeseen d key → ∀ (strict : Bool) (enter : Scope → Template → Walk Cache Unit)
        (scope : Scope) (p : Progress Cache),
        p.library.Faithful ((Source.folder f).loader d) →
          Included f d strict enter scope key p
            (Walk.node (Engine.finder (.folder f) strict d) enter scope (.inclusion key) p)) :=
  ⟨⟨fun h hunforeseen => hunforeseen.not_answers h, answers_of_not_unforeseen⟩,
    fun h _ _ _ _ hcache => included_of_answers (answers_of_not_unforeseen h) hcache⟩

/-- The folder of the usual settings in the current directory. -/
def usual : Folder := (Settings.ofRoot (.ofString ".")).folder

/-- A disk with one template. -/
def oneTemplate : Disk := ⟨.folder [("a.mustache", .file (Text.utf8Bytes "A"))], []⟩

/-- A missing template is skipped where that is allowed. -/
theorem load_foreseen_missing :
    Included usual oneTemplate false (fun _ _ => pure ()) (.ofRoot .null) "b" ⟨{}, {}, [], {}⟩
      (Walk.node (Engine.finder (.folder usual) false oneTemplate) (fun _ _ => pure ())
        (.ofRoot .null) (.inclusion "b") ⟨{}, {}, [], {}⟩) := by
  have hload : usual.load oneTemplate "b" =
      .error (.unavailable "b" "no such file under .") := by
    with_unfolding_all rfl
  have hforeseen := load_foreseen usual oneTemplate "b"
  refine hforeseen.2 (hforeseen.1.1 ?_) false _ _ _ (Cache.Faithful.empty _)
  rw [hload]
  exact ⟨_, rfl⟩

/-- The root directory as a key is not told to have no text. -/
theorem not_answers_load_of_root : ¬Answers "/" (usual.load oneTemplate "/") :=
  Unforeseen.not_answers (.suffix List.mem_cons_self rfl)

end Folder

end Mustache
