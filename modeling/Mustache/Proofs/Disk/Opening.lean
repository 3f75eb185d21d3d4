import Mustache.Proofs.Disk.Places

/-!
# Opening a file for writing

A file that is opened for writing is emptied, or it is new in a directory that was there. All else
on the disk stays, and so does what any path leads to, unless it leads to that file: the same names
can be followed, and where they could not be followed before they cannot be followed now. The one
difference beside the file itself is in the reason: names below a new file used to be missing, and
now are below what is no directory.
-/

namespace Mustache

namespace Entry

/-- An entry that is put is found under its name, and nothing else changes. -/
theorem lookup_put (name key : String) (entry : Entry) (entries : List (String × Entry)) :
    (put name entry entries).lookup key =
      if key = name then some entry else entries.lookup key := by
  induction entries with
  | nil => exact lookup_cons_eq_ite name entry [] key
  | cons first rest ih =>
    obtain ⟨other, old⟩ := first
    rw [put]
    by_cases hfirst : other = name
    · rw [if_pos hfirst, hfirst, lookup_cons_eq_ite, lookup_cons_eq_ite]
      split <;> rfl
    · rw [if_neg hfirst, lookup_cons_eq_ite, lookup_cons_eq_ite, ih]
      by_cases heq : key = other
      · rw [if_pos heq, if_neg (heq ▸ hfirst), if_pos heq]
      · rw [if_neg heq, if_neg heq]

/-- The second entry is the first one after the file at some names below it was opened for
writing. -/
inductive Opened : List String → Entry → Entry → Prop
  | emptied (bytes : List UInt8) : Opened [] (.file bytes) (.file [])
  | new {name : String} {entries : List (String × Entry)} (h : entries.lookup name = none) :
    Opened [name] (.folder entries) (.folder (put name (.file []) entries))
  | inside {name : String} {rest : List String} {entries : List (String × Entry)}
    {next next' : Entry} (hlookup : entries.lookup name = some next) (h : Opened rest next next') :
    Opened (name :: rest) (.folder entries) (.folder (put name next' entries))

/-- A file that is written anew is opened. -/
theorem opened_putAt_of_file {out : List String} {e : Entry} {bytes : List UInt8}
    (h : e.at? out = some (.file bytes)) : Opened out e (putAt (.file []) out e) := by
  induction out generalizing e with
  | nil =>
    obtain rfl := Option.some.inj h
    exact .emptied bytes
  | cons name rest ih =>
    obtain ⟨next, hnext, hrest⟩ := Option.bind_eq_some_iff.1 h
    cases e with
    | file _ => cases hnext
    | folder entries =>
      have hbelow : entries.lookup name = some next := hnext
      simp only [putAt, Entry.entries, hbelow, Option.getD_some]
      exact .inside hbelow (ih hrest)

/-- So is a file that was not there, in a directory that was. -/
theorem opened_putAt_of_none {above : List String} {name : String} {e : Entry}
    {entries : List (String × Entry)} (h : e.at? above = some (.folder entries))
    (hnone : entries.lookup name = none) :
    Opened (above ++ [name]) e (putAt (.file []) (above ++ [name]) e) := by
  induction above generalizing e with
  | nil =>
    obtain rfl := Option.some.inj h
    exact .new hnone
  | cons first rest ih =>
    obtain ⟨next, hnext, hrest⟩ := Option.bind_eq_some_iff.1 h
    cases e with
    | file _ => cases hnext
    | folder others =>
      have hbelow : others.lookup first = some next := hnext
      simp only [List.cons_append, putAt, Entry.entries, hbelow, Option.getD_some]
      exact .inside hbelow (ih hrest)

end Entry

namespace Disk

/-! ## Following names -/

variable {out : List String} {place place' : Place}

/-- A place on the disk and the same one after a file was opened: off the way to the file nothing
has changed. -/
inductive Still (out : List String) (place place' : Place) : Prop
  | same (h : place = place') (hoff : ¬place.names <+: out)
  | onWay (hnames : place.names = place'.names) {rest : List String}
    (hout : out = place.names ++ rest) (h : Entry.Opened rest place.entry place'.entry)

namespace Still

theorem names_eq (h : Still out place place') : place.names = place'.names := by
  cases h with
  | same h => rw [h]
  | onWay hnames => exact hnames

theorem isFolder_eq (h : Still out place place') :
    place.entry.isFolder = place'.entry.isFolder := by
  obtain ⟨below, entry⟩ := place
  obtain ⟨below', entry'⟩ := place'
  cases h with
  | same h => rw [h]
  | onWay _ _ h =>
    cases h with
    | emptied bytes => rfl
    | new => rfl
    | inside => rfl

/-- Under a name there is the new file, or nothing, or the same as before. -/
theorem lookup (h : Still out place place') (name : String) :
    (place.entry.entries.lookup name = none ∧
        place'.entry.entries.lookup name = some (.file []) ∧ out = place'.names ++ [name]) ∨
      (place.entry.entries.lookup name = none ∧ place'.entry.entries.lookup name = none) ∨
      ∃ next next', place.entry.entries.lookup name = some next ∧
        place'.entry.entries.lookup name = some next' ∧
        Still out ⟨place.names ++ [name], next⟩ ⟨place'.names ++ [name], next'⟩ := by
  -- what is under another name than the next one on the way is off the way
  have hother (hoff : ¬place.names ++ [name] <+: out)
      (hlookup : place'.entry.entries.lookup name = place.entry.entries.lookup name) :
      (place.entry.entries.lookup name = none ∧ place'.entry.entries.lookup name = none) ∨
        ∃ next next', place.entry.entries.lookup name = some next ∧
          place'.entry.entries.lookup name = some next' ∧
          Still out ⟨place.names ++ [name], next⟩ ⟨place'.names ++ [name], next'⟩ := by
    rw [hlookup, ← h.names_eq]
    cases place.entry.entries.lookup name with
    | none => exact .inl ⟨rfl, rfl⟩
    | some next => exact .inr ⟨next, next, rfl, rfl, .same rfl hoff⟩
  have hoff {first : String} {rest : List String} (hout : out = place.names ++ first :: rest)
      (hne : name ≠ first) : ¬place.names ++ [name] <+: out := by
    rw [hout, List.prefix_append_right_inj, List.cons_prefix_cons]
    exact fun hfirst => hne hfirst.1
  obtain ⟨below, entry⟩ := place
  obtain ⟨below', entry'⟩ := place'
  cases h with
  | same heq hprefix =>
    obtain ⟨rfl, rfl⟩ := Place.mk.inj heq
    exact .inr (hother (fun hlong => hprefix ((List.prefix_append _ _).trans hlong)) rfl)
  | onWay hnames hout hopened =>
    obtain rfl : below = below' := hnames
    cases hopened with
    | emptied bytes => exact .inr (.inl ⟨rfl, rfl⟩)
    | @new first entries hnone =>
      by_cases heq : name = first
      · subst heq
        exact .inl ⟨hnone, (Entry.lookup_put _ _ _ _).trans (if_pos rfl), hout⟩
      · exact .inr (hother (hoff hout heq) ((Entry.lookup_put _ _ _ _).trans (if_neg heq)))
    | @inside first rest entries next next' hlookup hinside =>
      by_cases heq : name = first
      · subst heq
        refine .inr (.inr ⟨next, next', hlookup, (Entry.lookup_put _ _ _ _).trans (if_pos rfl), ?_⟩)
        exact .onWay rfl (by rw [hout, List.append_assoc]; rfl) hinside
      · exact .inr (hother (hoff hout heq) ((Entry.lookup_put _ _ _ _).trans (if_neg heq)))

end Still

/-- How following names after a file was opened compares with following them before. -/
inductive Compares (out : List String) : Except DiskProblem (Place × List Place) →
    Except DiskProblem (Place × List Place) → Prop
  | ok {here here' : Place × List Place} (hplace : Still out here.1 here'.1)
    (habove : List.Forall₂ (Still out) here.2 here'.2) : Compares out (.ok here) (.ok here')
  | error (problem : DiskProblem) : Compares out (.error problem) (.error problem)
  | file {above : List Place} : Compares out (.error .notFound) (.ok (⟨out, .file []⟩, above))
  | belowFile : Compares out (.error .notFound) (.error .notDirectory)

variable {here here' : Place × List Place}

/-- One name leads to corresponding places from corresponding places. -/
theorem compares_step (name : String) (hplace : Still out here.1 here'.1)
    (habove : List.Forall₂ (Still out) here.2 here'.2) :
    Compares out (step name here) (step name here') := by
  have hfolder := hplace.isFolder_eq
  have hlookup := hplace.lookup name
  obtain ⟨⟨below, entry⟩, above⟩ := here
  obtain ⟨⟨below', entry'⟩, above'⟩ := here'
  cases entry with
  | file bytes =>
    cases entry' with
    | file bytes' => exact .error .notDirectory
    | folder entries' => cases hfolder
  | folder entries =>
    cases entry' with
    | file bytes' => cases hfolder
    | folder entries' =>
      unfold step
      dsimp only
      by_cases hname : name = ".."
      · rw [if_pos hname, if_pos hname]
        cases habove with
        | nil => exact .ok hplace .nil
        | cons hparent hhigher => exact .ok hparent hhigher
      rw [if_neg hname, if_neg hname]
      by_cases hlong : longestName < nameSize name
      · rw [if_pos hlong, if_pos hlong]
        exact .error .nameTooLong
      rw [if_neg hlong, if_neg hlong]
      dsimp only [Entry.entries] at hlookup
      -- the name is that of the opened file, stands for nothing on both disks, or leads on
      obtain ⟨hnone, hsome, rfl⟩ | ⟨hnone, hnone'⟩ | ⟨next, next', hnext, hnext', hstill⟩ := hlookup
      · rw [hnone, hsome]
        exact .file
      · rw [hnone, hnone']
        exact .error .notFound
      · rw [hnext, hnext']
        exact .ok hstill (.cons hplace habove)

theorem compares_steps (names : List String) (hplace : Still out here.1 here'.1)
    (habove : List.Forall₂ (Still out) here.2 here'.2) :
    Compares out (steps names here) (steps names here') := by
  induction names generalizing here here' with
  | nil => exact .ok hplace habove
  | cons name rest ih =>
    have hstep := compares_step name hplace habove
    rw [steps, steps]
    revert hstep
    generalize step name here = before
    generalize step name here' = after
    intro hstep
    cases hstep with
    | ok hplace habove => exact ih hplace habove
    | error problem => exact .error problem
    | belowFile => exact .belowFile
    | file =>
      cases rest with
      | nil => exact .file
      | cons next rest => exact .belowFile

/-! ## Paths -/

/-- A path leads to the file at some names. -/
def LeadsTo (d : Disk) (p : Path) (out : List String) : Prop :=
  ∃ bytes, d.locate p = .ok ⟨out, .file bytes⟩

variable {d : Disk} {p : Path}

/-- A path that is short and leads nowhere does so at one of its names. -/
theorem steps_of_locate_error {problem : DiskProblem} (hnull : p.holdsNull = false)
    (h : d.locate p = .error problem) (hne : problem ≠ .nameTooLong) :
    steps (d.way p) (⟨[], d.root⟩, []) = .error problem := by
  by_cases hshort : p.text.utf8ByteSize ≤ longestPath
  · rw [locate_eq_steps hnull hshort] at h
    exact map_eq_error_iff.1 h
  · rw [locate_of_tooLong hnull hshort] at h
    exact absurd (Except.error.inj h).symm hne

/-- Where a path can be written to, a file can be opened. -/
theorem opened_of_writable (hnull : p.holdsNull = false) (h : d.writable p = .ok out) :
    Entry.Opened out d.root (d.putFile out []).root := by
  unfold writable at h
  split at h
  · next names bytes hplace =>
    obtain rfl := Except.ok.inj h
    exact Entry.opened_putAt_of_file (at?_of_locate hplace).2
  · cases h
  · next hmissing =>
    split at h
    · next name above entries hlast hfolder =>
      obtain rfl := Except.ok.inj h
      refine Entry.opened_putAt_of_none (at?_of_locate hfolder).2 ?_
      -- the directory was come to, so it was its last name that was not found
      obtain ⟨-, -, higher, hdirectory⟩ := locate_eq_ok_iff.1 hfolder
      have hmissing := steps_of_locate_error hnull hmissing nofun
      have hway : d.way p = d.way { p with names := p.names.dropLast } ++ [name] := by
        rw [way, way, List.append_assoc, List.dropLast_append_getLast? name hlast]
        rfl
      rw [hway, steps_append, hdirectory] at hmissing
      have hstep : step name (⟨above, .folder entries⟩, higher) >>= steps [] = .error .notFound :=
        hmissing
      unfold step at hstep
      dsimp only at hstep
      split at hstep
      · cases higher <;> cases hstep
      split at hstep
      · cases hstep
      split at hstep
      · assumption
      · cases hstep
    · cases h
    · cases h
    · cases h
  · cases h

section
variable (hopen : Entry.Opened out d.root (d.putFile out []).root)
include hopen

/-- Where a path leads to after a file was opened. -/
theorem locate_putFile (p : Path) :
    (∃ place place', d.locate p = .ok place ∧ (d.putFile out []).locate p = .ok place' ∧
        Still out place place') ∨
      (∃ problem, d.locate p = .error problem ∧ (d.putFile out []).locate p = .error problem) ∨
      d.locate p = .error .notFound ∧ ((d.putFile out []).LeadsTo p out ∨
        (d.putFile out []).locate p = .error .notDirectory) := by
  cases hnull : p.holdsNull with
  | true => exact .inr (.inl ⟨.notFound, locate_of_holdsNull hnull, locate_of_holdsNull hnull⟩)
  | false =>
    by_cases hshort : p.text.utf8ByteSize ≤ longestPath
    · have hway : (d.putFile out []).way p = d.way p := rfl
      have hstart : Still out ⟨[], d.root⟩ ⟨[], (d.putFile out []).root⟩ :=
        .onWay rfl rfl hopen
      -- both disks are walked name by name from roots that correspond
      have hsteps : Compares out (steps (d.way p) (⟨[], d.root⟩, []))
          (steps (d.way p) (⟨[], (d.putFile out []).root⟩, [])) :=
        compares_steps _ hstart .nil
      rw [LeadsTo, locate_eq_steps hnull hshort, locate_eq_steps hnull hshort, hway]
      revert hsteps
      generalize steps (d.way p) (⟨[], d.root⟩, []) = before
      generalize steps (d.way p) (⟨[], (d.putFile out []).root⟩, []) = after
      intro hsteps
      -- the walk compares: the same place, the same problem, or a place that is new
      cases hsteps with
      | @ok here here' hplace _ => exact .inl ⟨here.1, here'.1, rfl, rfl, hplace⟩
      | error problem => exact .inr (.inl ⟨problem, rfl, rfl⟩)
      | file => exact .inr (.inr ⟨rfl, .inl ⟨[], rfl⟩⟩)
      | belowFile => exact .inr (.inr ⟨rfl, .inr rfl⟩)
    · have hlong (d : Disk) : d.locate p = .error .nameTooLong := locate_of_tooLong hnull hshort
      exact .inr (.inl ⟨.nameTooLong, hlong d, hlong _⟩)

/-- There is a file where there was one, apart from the one that was opened. -/
theorem isFile_putFile (hp : ¬(d.putFile out []).LeadsTo p out) :
    (d.putFile out []).isFile p = d.isFile p := by
  rcases locate_putFile hopen p with
    ⟨place, place', hbefore, hafter, hstill⟩ | ⟨problem, hbefore, hafter⟩ |
      ⟨hbefore, hfile | hafter⟩
  · rw [isFile_of_locate hbefore, isFile_of_locate hafter, hstill.isFolder_eq]
  · rw [isFile, isFile, hbefore, hafter]
  · exact absurd hfile hp
  · rw [isFile, isFile, hbefore, hafter]

/-- Every other file can be read as before. -/
theorem read_putFile (hp : ¬(d.putFile out []).LeadsTo p out) {bytes : List UInt8} :
    (d.putFile out []).read p = .ok bytes ↔ d.read p = .ok bytes := by
  rw [read_eq_ok_iff, read_eq_ok_iff]
  rcases locate_putFile hopen p with
    ⟨place, place', hbefore, hafter, hstill⟩ | ⟨problem, hbefore, hafter⟩ |
      ⟨hbefore, hfile | hafter⟩
  · rw [hbefore, hafter]
    cases hstill with
    | same heq => rw [heq]
    | onWay hnames hout hopened =>
      obtain ⟨below, entry⟩ := place
      obtain ⟨below', entry'⟩ := place'
      obtain rfl : below = below' := hnames
      cases hopened with
      | emptied bytes =>
        -- the file that was opened is the one that is led to
        refine absurd ⟨[], ?_⟩ hp
        rw [hafter, hout, List.append_nil]
      | new => simp
      | inside => simp
  · rw [hbefore, hafter]
  · exact absurd hfile hp
  · rw [hbefore, hafter]
    simp

end

end Disk

end Mustache
