import Mustache.Proofs.Disk.PathText
import Mustache.Proofs.Failing
import Mustache.Proofs.Lookup

/-!
# Places on the disk

A disk is a tree: the names in a directory are different ones, and each is a name that the system
takes. An entry of the tree is told by the names that lead to it from the root. Following a path
comes to the entry at the names that are left when every two dots have taken away the name before
them, as long as everything on the way is there.
-/

namespace Mustache

/-! ## Trees -/

/-- A name that something in a directory can have. -/
structure Path.IsFileName (name : String) : Prop where
  isName : IsName name
  ne_above : name ≠ ".."
  not_null : '\x00' ∉ name.toList
  short : Disk.nameSize name ≤ Disk.longestName

instance (name : String) : Decidable (Path.IsFileName name) :=
  decidable_of_iff
    ((name ≠ "" ∧ name ≠ "." ∧ '/' ∉ name.toList) ∧ name ≠ ".." ∧ '\x00' ∉ name.toList ∧
      Disk.nameSize name ≤ Disk.longestName)
    ⟨fun ⟨hname, habove, hnull, hshort⟩ => ⟨hname, habove, hnull, hshort⟩,
      fun ⟨hname, habove, hnull, hshort⟩ => ⟨hname, habove, hnull, hshort⟩⟩

namespace Entry

/-- The names in every directory are different ones, and such as the system takes. -/
inductive IsTree : Entry → Prop
  | file (bytes : List UInt8) : IsTree (.file bytes)
  | folder {entries : List (String × Entry)} (hnodup : (entries.map Prod.fst).Nodup)
    (hnames : ∀ entry ∈ entries, Path.IsFileName entry.1)
    (hbelow : ∀ entry ∈ entries, IsTree entry.2) : IsTree (.folder entries)

/-- The entry at some names below an entry. -/
def at? : List String → Entry → Option Entry
  | [], e => some e
  | name :: rest, e => (e.entries.lookup name).bind (at? rest)

/-- Names lead on from the place that the names before them lead to. -/
theorem at?_append (names more : List String) (e : Entry) :
    e.at? (names ++ more) = (e.at? names).bind (at? more) := by
  induction names generalizing e with
  | nil => rfl
  | cons name rest ih =>
    rw [List.cons_append, at?, at?, Option.bind_assoc]
    exact congrArg _ (funext ih)

/-- What is found in a tree has names that the system takes, and is a tree itself. -/
theorem IsTree.at? {e below : Entry} {names : List String} (h : e.IsTree)
    (hat : e.at? names = some below) :
    (∀ name ∈ names, Path.IsFileName name) ∧ below.IsTree := by
  induction names generalizing e with
  | nil =>
    obtain rfl := Option.some.inj hat
    exact ⟨nofun, h⟩
  | cons name rest ih =>
    obtain ⟨next, hnext, hrest⟩ := Option.bind_eq_some_iff.1 hat
    cases h with
    | file bytes => cases hnext
    | folder hnodup hnames hbelow =>
      have hmem : (name, next) ∈ _ := mem_of_lookup hnext
      have hafter := ih (hbelow _ hmem) hrest
      exact ⟨List.forall_mem_cons.2 ⟨hnames _ hmem, hafter.1⟩, hafter.2⟩

end Entry

/-! ## One name after another -/

namespace Disk

/-- Follows one name from a place, with the places above it, nearest first. -/
def step (name : String) (here : Place × List Place) : Except DiskProblem (Place × List Place) :=
  match here.1.entry with
  | .file _ => .error .notDirectory
  | .folder entries =>
    if name = ".." then
      match here.2 with
      | [] => .ok (here.1, [])
      | parent :: higher => .ok (parent, higher)
    else if longestName < nameSize name then .error .nameTooLong
    else
      match entries.lookup name with
      | none => .error .notFound
      | some entry => .ok (⟨here.1.names ++ [name], entry⟩, here.1 :: here.2)

/-- Follows names from a place, with the places above it. -/
def steps : List String → Place × List Place → Except DiskProblem (Place × List Place)
  | [], here => .ok here
  | name :: rest, here => step name here >>= steps rest

/-- Following a path is taking its names step by step. -/
theorem follow_eq_steps (names : List String) (here : Place × List Place) :
    follow names here.1 here.2 = (steps names here).map Prod.fst := by
  induction names generalizing here with
  | nil => rfl
  | cons name rest ih =>
    obtain ⟨⟨below, entry⟩, above⟩ := here
    unfold follow steps step
    cases entry with
    | file bytes => rfl
    | folder entries =>
      dsimp only
      split
      · cases above with
        | nil => exact ih (⟨below, .folder entries⟩, [])
        | cons parent higher => exact ih (parent, higher)
      split
      · rfl
      cases entries.lookup name with
      | none => rfl
      | some next => exact ih (⟨below ++ [name], next⟩, ⟨below, .folder entries⟩ :: above)

theorem steps_append (names more : List String) (here : Place × List Place) :
    steps (names ++ more) here = steps names here >>= steps more := by
  induction names generalizing here with
  | nil => rfl
  | cons name rest ih =>
    rw [List.cons_append, steps, steps]
    cases step name here with
    | error problem => rfl
    | ok next => exact ih next

/-- The ways in which one name can be followed. -/
inductive Moves (name : String) (here : Place × List Place) : Place × List Place → Prop
  | stay (hname : name = "..") (habove : here.2 = []) : Moves name here (here.1, [])
  | up (hname : name = "..") {parent : Place} {higher : List Place}
    (habove : here.2 = parent :: higher) : Moves name here (parent, higher)
  | down (hname : name ≠ "..") (hshort : nameSize name ≤ longestName) {entry : Entry}
    (hlookup : here.1.entry.entries.lookup name = some entry) :
    Moves name here (⟨here.1.names ++ [name], entry⟩, here.1 :: here.2)

/-- A step goes to the directory above, or to an entry of the directory it starts from. -/
theorem moves_of_step {name : String} {here there : Place × List Place}
    (h : step name here = .ok there) : Moves name here there := by
  obtain ⟨⟨names, entry⟩, above⟩ := here
  unfold step at h
  split at h
  · cases h
  next entries hentries =>
  obtain rfl : entry = .folder entries := hentries
  split at h
  · next hname =>
    -- the root is above itself
    cases above with
    | nil =>
      obtain rfl := Except.ok.inj h
      exact .stay hname rfl
    | cons parent higher =>
      obtain rfl := Except.ok.inj h
      exact .up hname rfl
  next hname =>
  split at h
  · cases h
  next hshort =>
  split at h
  · cases h
  next found hfound =>
  obtain rfl := Except.ok.inj h
  exact .down hname (Nat.not_lt.1 hshort) hfound

/-! ## Ways down from the root -/

variable {root : Entry} {here there : Place × List Place} {names : List String}

/-- A way from the root down the disk: the place it has come to and those above, nearest first. -/
inductive Trail (root : Entry) : Place × List Place → Prop
  | start : Trail root (⟨[], root⟩, [])
  | down {here : Place × List Place} (h : Trail root here) {name : String} {entry : Entry}
    (hlookup : here.1.entry.entries.lookup name = some entry) :
    Trail root (⟨here.1.names ++ [name], entry⟩, here.1 :: here.2)

/-- Every place on a way is at its names. -/
theorem Trail.at? (h : Trail root here) : root.at? here.1.names = some here.1.entry := by
  induction h with
  | start => rfl
  | down _ hlookup ih =>
    rw [Entry.at?_append, ih, Option.bind_some, Entry.at?, hlookup]
    rfl

/-- The names behind one more name, where two dots take the last one away. -/
def behind (names : List String) (name : String) : List String :=
  if name = ".." then names.dropLast else names ++ [name]

/-- A step keeps the trail, and its name goes behind those of the place. -/
theorem Trail.step {name : String} (h : Trail root here) (hstep : step name here = .ok there) :
    Trail root there ∧ there.1.names = behind here.1.names name := by
  cases moves_of_step hstep with
  | stay hname habove =>
    cases h with
    | start => exact ⟨.start, by rw [behind, if_pos hname]; rfl⟩
    | down => cases habove
  | up hname habove =>
    cases h with
    | start => cases habove
    | @down above h name' entry hlookup =>
      obtain ⟨rfl, rfl⟩ := List.cons.inj habove
      exact ⟨h, by rw [behind, if_pos hname, List.dropLast_concat]⟩
  | down hname _ hlookup => exact ⟨.down h hlookup, by rw [behind, if_neg hname]⟩

/-- Following names comes to a place on a way, whose names are those that are left of all. -/
theorem Trail.steps (h : Trail root here) (hsteps : steps names here = .ok there) :
    Trail root there ∧ there.1.names = names.foldl behind here.1.names := by
  induction names generalizing here with
  | nil =>
    obtain rfl := Except.ok.inj hsteps
    exact ⟨h, rfl⟩
  | cons name rest ih =>
    obtain ⟨next, hnext, hrest⟩ := bind_eq_ok_iff.1 hsteps
    obtain ⟨htrail, hnames⟩ := h.step hnext
    rw [List.foldl_cons, ← hnames]
    exact ih htrail hrest

/-- Names at which there is an entry can be followed if the system takes them. -/
theorem steps_of_at? (hnames : ∀ name ∈ names, Path.IsFileName name) {entry : Entry}
    (h : here.1.entry.at? names = some entry) :
    ∃ above, steps names here = .ok (⟨here.1.names ++ names, entry⟩, above) := by
  induction names generalizing here with
  | nil =>
    obtain rfl := Option.some.inj h
    exact ⟨here.2, by rw [List.append_nil]; rfl⟩
  | cons name rest ih =>
    obtain ⟨hname, hrest⟩ := List.forall_mem_cons.1 hnames
    obtain ⟨next, hnext, hat⟩ := Option.bind_eq_some_iff.1 h
    -- a name that the system takes leads down, neither above nor astray
    have hstep : step name here = .ok (⟨here.1.names ++ [name], next⟩, here.1 :: here.2) := by
      obtain ⟨⟨above, entry'⟩, higher⟩ := here
      cases entry' with
      | file bytes => cases hnext
      | folder entries =>
        have hlookup : entries.lookup name = some next := hnext
        simp only [step, if_neg hname.ne_above, if_neg (Nat.not_lt.2 hname.short), hlookup]
    obtain ⟨above, hsteps⟩ :
        ∃ above, steps rest (⟨here.1.names ++ [name], next⟩, here.1 :: here.2) =
          .ok (⟨here.1.names ++ [name] ++ rest, entry⟩, above) := ih hrest hat
    refine ⟨above, ?_⟩
    rw [steps, hstep]
    show steps rest _ = _
    rw [hsteps, List.append_assoc]
    rfl

/-! ## Paths -/

/-- Names that are put one behind another contain no two dots. -/
theorem above_not_mem_foldl_behind {start : List String} (h : ".." ∉ start)
    (names : List String) : ".." ∉ names.foldl behind start := by
  induction names generalizing start with
  | nil => exact h
  | cons name rest ih =>
    refine ih ?_
    unfold behind
    split
    · exact fun hmem => h (List.dropLast_subset _ hmem)
    · next hname =>
      rw [List.mem_append, List.mem_singleton]
      exact not_or.2 ⟨h, fun heq => hname heq.symm⟩

/-- Without two dots they are put behind in order. -/
theorem foldl_behind_of_not_mem (start : List String) (h : ".." ∉ names) :
    names.foldl behind start = start ++ names := by
  induction names generalizing start with
  | nil => rw [List.append_nil]; rfl
  | cons name rest ih =>
    obtain ⟨hname, hrest⟩ := not_or.1 (mt List.mem_cons.2 h)
    rw [List.foldl_cons, ih _ hrest, behind, if_neg fun heq => hname heq.symm, List.append_assoc]
    rfl

/-- The names from the root that a path is followed along. -/
def way (d : Disk) (p : Path) : List String :=
  (if p.isAbsolute then [] else d.current) ++ p.names

variable {d : Disk} {p : Path} {place : Place}

theorem locate_of_holdsNull (hnull : p.holdsNull = true) : d.locate p = .error .notFound := by
  rw [locate, if_pos hnull]

theorem locate_of_tooLong (hnull : p.holdsNull = false)
    (hlong : ¬p.text.utf8ByteSize ≤ longestPath) : d.locate p = .error .nameTooLong := by
  rw [locate, hnull, if_neg Bool.false_ne_true, if_pos (Nat.not_le.1 hlong)]

/-- A short path without a null character is located by its names. -/
theorem locate_eq_steps (hnull : p.holdsNull = false)
    (hshort : p.text.utf8ByteSize ≤ longestPath) :
    d.locate p = (steps (d.way p) (⟨[], d.root⟩, [])).map Prod.fst := by
  unfold locate
  rw [hnull, if_neg Bool.false_ne_true, if_neg (Nat.not_lt.2 hshort)]
  exact follow_eq_steps (d.way p) (⟨[], d.root⟩, [])

/-- A path leads to a place if it can be opened and its names can be followed. -/
theorem locate_eq_ok_iff :
    d.locate p = .ok place ↔ p.holdsNull = false ∧ p.text.utf8ByteSize ≤ longestPath ∧
      ∃ above, steps (d.way p) (⟨[], d.root⟩, []) = .ok (place, above) := by
  cases hnull : p.holdsNull with
  | true =>
    refine iff_of_false (fun h => ?_) fun h => nomatch h.1
    rw [locate_of_holdsNull hnull] at h
    cases h
  | false =>
    by_cases hshort : p.text.utf8ByteSize ≤ longestPath
    · rw [locate_eq_steps hnull hshort, map_eq_ok_iff]
      constructor
      · rintro ⟨⟨_, above⟩, hsteps, rfl⟩
        exact ⟨rfl, hshort, above, hsteps⟩
      · rintro ⟨-, -, above, hsteps⟩
        exact ⟨_, hsteps, rfl⟩
    · refine iff_of_false (fun h => ?_) fun h => hshort h.2.1
      rw [locate_of_tooLong hnull hshort] at h
      cases h

/-- A path leads to what is at the names that are left of it. -/
theorem at?_of_locate (h : d.locate p = .ok place) :
    place.names = p.namesFrom d.current ∧ d.root.at? place.names = some place.entry := by
  obtain ⟨-, -, above, hsteps⟩ := locate_eq_ok_iff.1 h
  obtain ⟨htrail, hnames⟩ := Trail.start.steps hsteps
  exact ⟨hnames, htrail.at?⟩

theorem holdsNull_eq_false (hnames : ∀ name ∈ names, Path.IsFileName name) (slashes : Nat) :
    Path.holdsNull ⟨slashes, names⟩ = false := by
  refine List.any_eq_false.2 fun name hmem hnull => ?_
  exact (hnames name hmem).not_null (List.contains_iff_mem.1 hnull)

/-- What is at some names is led to by their path from the root if it is short enough. -/
theorem locate_of_at? (hnames : ∀ name ∈ names, Path.IsFileName name) {entry : Entry}
    (hat : d.root.at? names = some entry)
    (hshort : (Path.text ⟨1, names⟩).utf8ByteSize ≤ longestPath) :
    d.locate ⟨1, names⟩ = .ok ⟨names, entry⟩ :=
  locate_eq_ok_iff.2 ⟨holdsNull_eq_false hnames 1, hshort, steps_of_at? hnames hat⟩

/-- From where a path leads to, further names lead to what is at them. -/
theorem locate_join (h : d.locate p = .ok place) (hnames : ∀ name ∈ names, Path.IsFileName name)
    {entry : Entry} (hat : place.entry.at? names = some entry)
    (hshort : (p.join ⟨0, names⟩).text.utf8ByteSize ≤ longestPath) :
    d.locate (p.join ⟨0, names⟩) = .ok ⟨place.names ++ names, entry⟩ := by
  obtain ⟨hnull, -, above, hsteps⟩ := locate_eq_ok_iff.1 h
  obtain ⟨higher, hrest⟩ : ∃ higher, steps names (place, above) =
      .ok (⟨place.names ++ names, entry⟩, higher) := steps_of_at? hnames hat
  refine locate_eq_ok_iff.2 ⟨?_, hshort, higher, ?_⟩
  · show (p.names ++ names).any _ = false
    rw [List.any_append]
    exact Bool.or_eq_false_iff.2 ⟨hnull, holdsNull_eq_false hnames 0⟩
  · show Disk.steps ((if p.isAbsolute then [] else d.current) ++ (p.names ++ names)) _ = _
    rw [← List.append_assoc, steps_append]
    exact bind_eq_ok_iff.2 ⟨_, hsteps, hrest⟩

/-- No path leads on from where none leads to. -/
theorem exists_locate_of_join (hnames : ∀ name ∈ names, name ≠ "")
    (h : d.locate (p.join ⟨0, names⟩) = .ok place) : ∃ start, d.locate p = .ok start := by
  obtain ⟨hnull, hshort, above, hsteps⟩ := locate_eq_ok_iff.1 h
  have hway : d.way (p.join ⟨0, names⟩) = d.way p ++ names := (List.append_assoc _ _ _).symm
  rw [hway, steps_append] at hsteps
  obtain ⟨⟨start, higher⟩, hstart, -⟩ := bind_eq_ok_iff.1 hsteps
  have hfirst : (p.holdsNull || Path.holdsNull ⟨0, names⟩) = false :=
    List.any_append.symm.trans hnull
  exact ⟨start, locate_eq_ok_iff.2 ⟨(Bool.or_eq_false_iff.1 hfirst).1,
    Nat.le_trans (Path.size_text_le p.slashes p.names hnames) hshort, higher, hstart⟩⟩

end Disk

end Mustache
