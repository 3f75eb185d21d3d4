import Mathlib.Data.Set.List
import Mustache.Proofs.Failing
import Mustache.Settings

/-!
# What the entries of a settings file can come to

Reading entries answers if it gives settings or tells what is wrong with them. Unknown keys are told
by their names, so keys that are no texts are not foreseen; nor are whole numbers that are too long
to be written, where the text of a value is asked for. All other entries that a document can hold
are answered, and those with an unknown key never give settings.
-/

namespace Mustache

/-- A value that a document can hold. -/
inductive Value.Documentary : Value → Prop
  | null : Documentary .null
  | bool (b : Bool) : Documentary (.bool b)
  | int (n : Int) : Documentary (.int n)
  | float (x : Binary64) : Documentary (.float x)
  | text (s : String) : Documentary (.text s)
  | bytes (content : List UInt8) : Documentary (.bytes content)
  | date (d : Date) : Documentary (.date d)
  | moment (m : Moment) : Documentary (.moment m)
  | list {items : List Value} (h : ∀ v ∈ items, Documentary v) : Documentary (.list items)
  | tuple {items : List Value} (h : ∀ v ∈ items, Documentary v) : Documentary (.tuple items)
  | set {items : List Value} (h : ∀ v ∈ items, Documentary v) : Documentary (.set items)
  | map {entries : List (Value × Value)} (hkeys : ∀ entry ∈ entries, Documentary entry.1)
    (hvalues : ∀ entry ∈ entries, Documentary entry.2) : Documentary (.map entries)

/-- A value that a document can hold has a text if it can be written. -/
theorem Value.Documentary.exists_text?_iff {v : Value} (h : v.Documentary) :
    (∃ s, v.text? = .ok s) ↔ v.isWritable := by
  have hwriting (b : Bool) (shown : String) :
      (∃ s, (if b then .ok shown else .error tooManyDigits : Except Failure String) =
        .ok s) ↔ b := by
    cases b <;> simp
  cases h with
  | text s => exact iff_of_true ⟨s, rfl⟩ rfl
  | date d => exact iff_of_true ⟨d.text, rfl⟩ rfl
  | moment m => exact iff_of_true ⟨m.text, rfl⟩ rfl
  | _ =>
    simp only [text?]
    exact hwriting _ _

/-- A value that is found stands under its name. -/
theorem Value.mem_of_lookup? {name : String} {v : Value} {entries : List (Value × Value)}
    (h : lookup? name entries = some v) : (.text name, v) ∈ entries := by
  induction entries using lookup?.induct name with
  | case1 => cases h
  | case2 w rest =>
    rw [lookup?, if_pos rfl] at h
    cases h
    exact List.mem_cons_self
  | case3 w rest key hne ih =>
    rw [lookup?, if_neg hne] at h
    exact List.mem_cons_of_mem _ (ih h)
  | case4 entry rest hentry ih =>
    rw [lookup?] at h
    · exact List.mem_cons_of_mem _ (ih h)
    · exact hentry

/-- What is found in a document is a document. -/
theorem Value.Documentary.lookup? {name : String} {v : Value} {entries : List (Value × Value)}
    (h : (Value.map entries).Documentary) (hv : Value.lookup? name entries = some v) :
    v.Documentary := by
  cases h with
  | map hkeys hvalues => exact hvalues _ (mem_of_lookup? hv)

namespace Settings

/-- Reading gives something, or tells what is wrong with the settings of a file. -/
def Answers {α : Type} (path : Option String) : Except Fault α → Prop
  | .ok _ => True
  | .error fault => ∃ problem, fault = .settings path problem

/-- A key that settings have. -/
def IsKnown (key : Value) : Prop := ∃ name ∈ knownKeys, .text name = key

/-- The names of all unknown keys among some entries, in order. -/
structure Unknown (entries : List (Value × Value)) (names : List String) : Prop where
  ordered : names.Pairwise (· ≤ ·)
  mem_iff (name : String) : name ∈ names ↔ name ∉ knownKeys ∧ ∃ v, (.text name, v) ∈ entries

/-- A value that the suffixes can be read from. -/
def IsNames (v : Value) : Prop :=
  (∃ s, v = .text s) ∨ ∃ items, v = .list items ∨ v = .tuple items

/-- The values among some entries whose texts are asked for. -/
inductive Asked (entries : List (Value × Value)) : Value → Prop
  | root {v : Value} (h : Value.lookup? "root" entries = some v) : Asked entries v
  | suffix {items : List Value} {v : Value}
    (h : Value.lookup? "suffixes" entries = some (.list items) ∨
      Value.lookup? "suffixes" entries = some (.tuple items)) (hmem : v ∈ items) : Asked entries v
  /-- The encoding is read only after the suffixes. -/
  | encoding {v : Value} (h : Value.lookup? "encoding" entries = some v)
    (hsuffixes : ∀ w, Value.lookup? "suffixes" entries = some w → IsNames w) : Asked entries v

section
variable {α β : Type} {path : Option String} {entries : List (Value × Value)}

/-- Two parts in a row answer if the first one does, and the second one whenever it is reached. -/
theorem answers_bind_iff {x : Except Fault α} {f : α → Except Fault β} :
    Answers path (x >>= f) ↔ Answers path x ∧ ∀ a, x = .ok a → Answers path (f a) := by
  cases x with
  | ok a => simp [bind, Except.bind, Answers]
  | error fault => simp [bind, Except.bind, Answers]

/-! ## Keys -/

/-- Only texts are texts of keys. -/
theorem keyText?_eq_some_iff {key : Value} {name : String} :
    keyText? key = some name ↔ .text name = key := by
  unfold keyText?
  split
  · simp [eq_comm]
  · next hne => simpa using fun h => hne name h.symm

theorem mapM_keyText?_eq_some_iff {keys : List Value} {names : List String} :
    keys.mapM keyText? = some names ↔ names.map .text = keys := by
  induction keys generalizing names with
  | nil => cases names <;> simp
  | cons key keys ih =>
    cases names with
    | nil => simp [List.mapM_cons, Option.bind_eq_some_iff]
    | cons name names =>
      simp [List.mapM_cons, Option.bind_eq_some_iff, ih, keyText?_eq_some_iff]

/-- Keys can be listed by name exactly when all of them are texts. -/
theorem exists_mapM_keyText?_iff {keys : List Value} :
    (∃ names, keys.mapM keyText? = some names) ↔ ∀ key ∈ keys, ∃ name, .text name = key := by
  simp only [mapM_keyText?_eq_some_iff]
  exact Set.ext_iff.1 (Set.range_list_map Value.text) keys

/-- The unknown keys among those of some entries. -/
def unknownKeys (entries : List (Value × Value)) : List Value :=
  (entries.map Prod.fst).filter fun key => !((keyText? key).map knownKeys.contains).getD false

/-- A key is found known exactly when it is the text of a known name. -/
theorem isKnown_iff {key : Value} :
    ((keyText? key).map knownKeys.contains).getD false = true ↔ IsKnown key := by
  cases hkey : keyText? key with
  | none =>
    refine iff_of_false nofun ?_
    rintro ⟨name, -, hname⟩
    rw [keyText?_eq_some_iff.2 hname] at hkey
    cases hkey
  | some name =>
    rw [← keyText?_eq_some_iff.1 hkey]
    simp [IsKnown]

/-- The unknown keys are those of entries that are not known. -/
theorem mem_unknownKeys_iff {key : Value} :
    key ∈ unknownKeys entries ↔ (∃ v, (key, v) ∈ entries) ∧ ¬IsKnown key := by
  rw [unknownKeys, List.mem_filter, Bool.not_eq_true', ← Bool.not_eq_true, isKnown_iff]
  simp

/-- Checking keys ends well, with the unknown names in order, or, if one of the unknown keys is no
text, with a failure to list them. -/
theorem checkKeys_eq (path : Option String) (entries : List (Value × Value)) :
    checkKeys path entries =
      if (unknownKeys entries).isEmpty then .ok ()
      else
        match (unknownKeys entries).mapM keyText? with
        | none => .error .unnamedKeys
        | some names =>
          .error (.settings path (.unknownKeys (names.mergeSort fun a b => decide (a ≤ b)))) := rfl

theorem checkKeys_of_known (h : ∀ entry ∈ entries, IsKnown entry.1) :
    checkKeys path entries = .ok () := by
  have hnone : unknownKeys entries = [] := by
    refine List.eq_nil_iff_forall_not_mem.2 fun key hkey => ?_
    obtain ⟨⟨v, hmem⟩, hunknown⟩ := mem_unknownKeys_iff.1 hkey
    exact hunknown (h _ hmem)
  rw [checkKeys_eq, hnone]
  rfl

theorem unknownKeys_ne_nil (h : ∃ entry ∈ entries, ¬IsKnown entry.1) :
    (unknownKeys entries).isEmpty = false := by
  obtain ⟨⟨key, v⟩, hmem, hkey⟩ := h
  exact List.isEmpty_eq_false_iff.2 (List.ne_nil_of_mem (mem_unknownKeys_iff.2 ⟨⟨v, hmem⟩, hkey⟩))

/-- Sorting the names of the unknown keys lists them. -/
theorem unknown_mergeSort {names : List String} (h : names.map .text = unknownKeys entries) :
    Unknown entries (names.mergeSort fun a b => decide (a ≤ b)) := by
  constructor
  · have hsorted : (names.mergeSort fun a b => decide (a ≤ b)).Pairwise
        fun a b => decide (a ≤ b) = true := by
      refine List.pairwise_mergeSort (fun a b c hab hbc => ?_) (fun a b => ?_) names
      · exact decide_eq_true (String.le_trans (of_decide_eq_true hab) (of_decide_eq_true hbc))
      · simpa using String.le_total a b
    exact hsorted.imp of_decide_eq_true
  · intro name
    have hmem : name ∈ names ↔ .text name ∈ unknownKeys entries := by simp [← h]
    rw [List.mem_mergeSort, hmem, mem_unknownKeys_iff, and_comm]
    simp [IsKnown]

/-- Unknown keys that are texts are told by their names. -/
theorem checkKeys_of_text (path : Option String) (hunknown : ∃ entry ∈ entries, ¬IsKnown entry.1)
    (htext : ∀ entry ∈ entries, ¬IsKnown entry.1 → ∃ name, .text name = entry.1) :
    ∃ names, Unknown entries names ∧
      checkKeys path entries = .error (.settings path (.unknownKeys names)) := by
  obtain ⟨names, hnames⟩ := exists_mapM_keyText?_iff.2 fun key hkey => by
    obtain ⟨⟨v, hmem⟩, hunknown⟩ := mem_unknownKeys_iff.1 hkey
    exact htext _ hmem hunknown
  refine ⟨_, unknown_mergeSort (mapM_keyText?_eq_some_iff.1 hnames), ?_⟩
  rw [checkKeys_eq, unknownKeys_ne_nil hunknown, hnames]
  rfl

/-- An unknown key that is no text is not foreseen. -/
theorem checkKeys_of_not_text {key v : Value} (hmem : (key, v) ∈ entries)
    (hkey : ∀ name, .text name ≠ key) : checkKeys path entries = .error .unnamedKeys := by
  have hunknown : ¬IsKnown key := fun ⟨name, _, hname⟩ => hkey name hname
  cases hnames : (unknownKeys entries).mapM keyText? with
  | none =>
    rw [checkKeys_eq, unknownKeys_ne_nil ⟨_, hmem, hunknown⟩, hnames]
    rfl
  | some names =>
    obtain ⟨name, hname⟩ := exists_mapM_keyText?_iff.1 ⟨names, hnames⟩ key
      (mem_unknownKeys_iff.2 ⟨⟨v, hmem⟩, hunknown⟩)
    exact absurd hname (hkey name)

/-! ## Values -/

/-- The text of a value is an answer unless its digits are too many to write. -/
theorem answers_textOf_iff {v : Value} (h : v.Documentary) :
    Answers path (textOf v) ↔ v.isWritable := by
  rw [← h.exists_text?_iff, textOf]
  cases v.text? with
  | ok s => exact iff_of_true trivial ⟨s, rfl⟩
  | error failure => exact iff_of_false (fun ⟨_, hfault⟩ => nomatch hfault) nofun

theorem exists_textOf_iff {v : Value} (h : v.Documentary) :
    (∃ s, textOf v = .ok s) ↔ v.isWritable := by
  simp only [textOf, mapError_eq_ok_iff, h.exists_text?_iff]

/-- The items that suffixes are read from can be written. -/
def HasWritableItems (v : Value) : Prop :=
  ∀ items, v = .list items ∨ v = .tuple items → ∀ item ∈ items, item.isWritable

/-- Items have texts when each of them can be written. -/
theorem exists_mapM_text?_iff {items : List Value} (h : ∀ item ∈ items, item.Documentary) :
    (∃ names, items.mapM Value.text? = .ok names) ↔ ∀ item ∈ items, item.isWritable := by
  rw [exists_mapM_eq_ok_iff]
  exact forall₂_congr fun item hitem => (h item hitem).exists_text?_iff

/-- What is read from the items of a list or of a tuple. -/
def suffixesOfItems (items : List Value) : Except Fault (List String) :=
  match items.mapM Value.text? with
  | .error failure => .error (.failure failure)
  | .ok names => .ok (cleanSuffixes names)

/-- Suffixes are taken from items that can be written. -/
theorem answers_suffixesOfItems_iff {items : List Value}
    (h : ∀ item ∈ items, item.Documentary) :
    Answers path (suffixesOfItems items) ↔ ∀ item ∈ items, item.isWritable := by
  rw [← exists_mapM_text?_iff h, suffixesOfItems]
  cases items.mapM Value.text? with
  | ok names => exact iff_of_true trivial ⟨names, rfl⟩
  | error failure => exact iff_of_false (by simp [Answers]) nofun

theorem exists_suffixesOfItems_iff {items : List Value} (h : ∀ item ∈ items, item.Documentary) :
    (∃ names, suffixesOfItems items = .ok names) ↔ ∀ item ∈ items, item.isWritable := by
  rw [← exists_mapM_text?_iff h, suffixesOfItems]
  cases items.mapM Value.text? with
  | ok names => exact iff_of_true ⟨_, rfl⟩ ⟨names, rfl⟩
  | error failure => exact iff_of_false nofun nofun

/-- Reading suffixes answers unless an item cannot be written: a value of a wrong kind is told
of. -/
theorem answers_suffixesOf_iff {v : Value} (h : v.Documentary) :
    Answers path (suffixesOf path v) ↔ HasWritableItems v := by
  cases h with
  | list hitems => exact (answers_suffixesOfItems_iff hitems).trans (by simp [HasWritableItems])
  | tuple hitems => exact (answers_suffixesOfItems_iff hitems).trans (by simp [HasWritableItems])
  | text s => exact iff_of_true trivial (by simp [HasWritableItems])
  | _ => exact iff_of_true ⟨_, rfl⟩ (by simp [HasWritableItems])

/-- There are suffixes if the value holds names and all can be written. -/
theorem exists_suffixesOf_iff {v : Value} (h : v.Documentary) :
    (∃ names, suffixesOf path v = .ok names) ↔ IsNames v ∧ HasWritableItems v := by
  cases h with
  | list hitems =>
    exact (exists_suffixesOfItems_iff hitems).trans (by simp [IsNames, HasWritableItems])
  | tuple hitems =>
    exact (exists_suffixesOfItems_iff hitems).trans (by simp [IsNames, HasWritableItems])
  | text s => exact iff_of_true ⟨_, rfl⟩ (by simp [IsNames, HasWritableItems])
  | _ => exact iff_of_false nofun (by simp [IsNames])

/-- A setting answers if its value, where there is one, is read with an answer. -/
theorem answers_setting_iff {key : String} {otherwise : α} {read : Value → Except Fault α} :
    Answers path (setting entries key otherwise read) ↔
      ∀ v, Value.lookup? key entries = some v → Answers path (read v) := by
  unfold setting
  split
  · next hnone => simp [hnone, Answers]
  · next v hv => simp [hv]

/-- There is a setting if its value, where there is one, can be read. -/
theorem exists_setting_iff {key : String} {otherwise : α} {read : Value → Except Fault α} :
    (∃ a, setting entries key otherwise read = .ok a) ↔
      ∀ v, Value.lookup? key entries = some v → ∃ a, read v = .ok a := by
  unfold setting
  split
  · next hnone => simp [hnone]
  · next v hv => simp [hv]

/-! ## Entries -/

/-- Where the texts of values are asked for. -/
theorem forall_asked_iff :
    (∀ v, Asked entries v → v.isWritable) ↔
      (∀ v, Value.lookup? "root" entries = some v → v.isWritable) ∧
        (∀ v, Value.lookup? "suffixes" entries = some v → HasWritableItems v) ∧
          ((∀ v, Value.lookup? "suffixes" entries = some v → IsNames v) →
            ∀ v, Value.lookup? "encoding" entries = some v → v.isWritable) := by
  constructor
  · intro h
    refine ⟨fun v hv => h v (.root hv), ?_, fun hnames v hv => h v (.encoding hv hnames)⟩
    rintro v hv items (rfl | rfl) item hitem
    · exact h item (.suffix (.inl hv) hitem)
    · exact h item (.suffix (.inr hv) hitem)
  · rintro ⟨hroot, hsuffixes, hencoding⟩ v hv
    cases hv with
    | root hv => exact hroot v hv
    | suffix hv hmem =>
      rcases hv with hv | hv
      · exact hsuffixes _ hv _ (.inl rfl) v hmem
      · exact hsuffixes _ hv _ (.inr rfl) v hmem
    | encoding hv hnames => exact hencoding hnames v hv

/-- The root of the folder, as an entry gives it. -/
def readRoot (base : Path) (v : Value) : Except Fault Path := do
  let s ← textOf v
  return base.join (.ofString s)

/-- The root is read with an answer unless it cannot be written. -/
theorem answers_readRoot_iff {base : Path} {v : Value} (h : v.Documentary) :
    Answers path (readRoot base v) ↔ v.isWritable := by
  rw [readRoot, answers_bind_iff, answers_textOf_iff h]
  exact and_iff_left fun _ _ => trivial

theorem exists_readRoot_iff {base : Path} {v : Value} (h : v.Documentary) :
    (∃ p, readRoot base v = .ok p) ↔ v.isWritable := by
  rw [← exists_textOf_iff h]
  constructor
  · rintro ⟨p, hp⟩
    obtain ⟨s, hs, -⟩ := bind_eq_ok_iff.1 hp
    exact ⟨s, hs⟩
  · rintro ⟨s, hs⟩
    exact ⟨_, bind_eq_ok_iff.2 ⟨s, hs, rfl⟩⟩

/-- Whatever stands for strictness is read with an answer. -/
theorem answers_strict (base : Path) (path : Option String) (entries : List (Value × Value)) :
    Answers path (setting entries "strict_partials" (ofRoot base).strict fun
      | .bool b => .ok b
      | _ => .error (.settings path .strictNotBoolean)) := by
  rw [answers_setting_iff]
  intro v _
  cases v with
  | bool b => trivial
  | _ => exact ⟨_, rfl⟩

/-- Each setting is read if those before it could be, and the last one is always answered. -/
theorem answers_ofEntries_iff_settings (base : Path) (hkeys : checkKeys path entries = .ok ()) :
    Answers path (ofEntries base path entries) ↔
      Answers path (setting entries "root" (ofRoot base).root (readRoot base)) ∧
        ((∃ root, setting entries "root" (ofRoot base).root (readRoot base) = .ok root) →
          Answers path (setting entries "suffixes" (ofRoot base).suffixes (suffixesOf path)) ∧
            ((∃ suffixes, setting entries "suffixes" (ofRoot base).suffixes (suffixesOf path) =
                .ok suffixes) →
              Answers path (setting entries "encoding" (ofRoot base).encoding textOf))) := by
  unfold ofEntries
  rw [hkeys]
  simp only [answers_bind_iff, forall_exists_index]
  constructor
  · rintro ⟨-, h⟩
    obtain ⟨hroot, h⟩ := h () trivial
    refine ⟨hroot, fun root heq => ?_⟩
    obtain ⟨hsuffixes, h⟩ := h root heq
    exact ⟨hsuffixes, fun suffixes heq => (h suffixes heq).1⟩
  · rintro ⟨hroot, h⟩
    refine ⟨trivial, fun _ _ => ⟨hroot, fun root heq => ?_⟩⟩
    obtain ⟨hsuffixes, h⟩ := h root heq
    refine ⟨hsuffixes, fun suffixes heq => ⟨h suffixes heq, fun _ _ => ?_⟩⟩
    exact ⟨answers_strict base path entries, fun _ _ => trivial⟩

/-- With known keys alone, the values decide. -/
theorem answers_ofEntries_of_known (base : Path) (h : (Value.map entries).Documentary)
    (hknown : ∀ entry ∈ entries, IsKnown entry.1) :
    Answers path (ofEntries base path entries) ↔ ∀ v, Asked entries v → v.isWritable := by
  have hlookup {key : String} {P Q : Value → Prop} (hPQ : ∀ v, v.Documentary → (P v ↔ Q v)) :
      (∀ v, Value.lookup? key entries = some v → P v) ↔
        ∀ v, Value.lookup? key entries = some v → Q v :=
    forall₂_congr fun v hv => hPQ v (h.lookup? hv)
  rw [answers_ofEntries_iff_settings base (checkKeys_of_known hknown), forall_asked_iff]
  simp only [answers_setting_iff, exists_setting_iff]
  rw [hlookup fun v hv => answers_readRoot_iff hv, hlookup fun v hv => exists_readRoot_iff hv,
    hlookup fun v hv => answers_suffixesOf_iff hv, hlookup fun v hv => exists_suffixesOf_iff hv,
    hlookup fun v hv => answers_textOf_iff hv]
  -- what is left says that a setting is read only after those before it
  grind

/-- Entries that a document can hold are answered if every unknown key is a text and, with known
keys alone, the values whose texts are asked for can be written. Unknown keys that are texts are
told, all of them and in order; other ones are not foreseen. -/
theorem ofEntries_foreseen (base : Path) (path : Option String) {entries : List (Value × Value)}
    (h : (Value.map entries).Documentary) :
    (Answers path (ofEntries base path entries) ↔
      (∀ entry ∈ entries, ¬IsKnown entry.1 → ∃ name, .text name = entry.1) ∧
        ((∀ entry ∈ entries, IsKnown entry.1) → ∀ v, Asked entries v → v.isWritable)) ∧
    ((∃ entry ∈ entries, ¬IsKnown entry.1) →
      ofEntries base path entries = .error .unnamedKeys ∨
        ∃ names, Unknown entries names ∧
          ofEntries base path entries = .error (.settings path (.unknownKeys names))) := by
  have hbind {fault : Fault} (hkeys : checkKeys path entries = .error fault) :
      ofEntries base path entries = .error fault := bind_eq_error_iff.2 (.inl hkeys)
  -- unknown keys end the reading before any value is looked at
  by_cases hknown : ∀ entry ∈ entries, IsKnown entry.1
  · refine ⟨?_, fun ⟨entry, hmem, hentry⟩ => absurd (hknown entry hmem) hentry⟩
    rw [answers_ofEntries_of_known base h hknown]
    constructor
    · exact fun hasked => ⟨fun entry hmem hentry => absurd (hknown entry hmem) hentry,
        fun _ => hasked⟩
    · exact fun ⟨_, hasked⟩ => hasked hknown
  by_cases htext : ∀ entry ∈ entries, ¬IsKnown entry.1 → ∃ name, .text name = entry.1
  · have hunknown : ∃ entry ∈ entries, ¬IsKnown entry.1 := by simpa using hknown
    obtain ⟨names, hnames, hkeys⟩ := checkKeys_of_text path hunknown htext
    rw [hbind hkeys]
    exact ⟨iff_of_true ⟨_, rfl⟩ ⟨htext, fun hall => absurd hall hknown⟩,
      fun _ => .inr ⟨names, hnames, rfl⟩⟩
  · have hnot := htext
    push Not at hnot
    obtain ⟨⟨key, v⟩, hmem, hkey, hname⟩ := hnot
    rw [hbind (checkKeys_of_not_text hmem hname)]
    exact ⟨iff_of_false (by simp [Answers]) fun hall => htext hall.1, fun _ => .inl rfl⟩

/-- A misspelt key is told, whatever the other entries are. -/
theorem ofEntries_foreseen_misspelt :
    Answers (some "stache.yaml")
      (ofEntries (.ofString "pages") (some "stache.yaml")
        [(.text "sufixes", .text ".html"), (.text "root", .int 7)]) := by
  have hdocumentary :
      (Value.map [(.text "sufixes", .text ".html"), (.text "root", .int 7)]).Documentary :=
    .map (List.forall_mem_cons.2 ⟨.text _, List.forall_mem_singleton.2 (.text _)⟩)
      (List.forall_mem_cons.2 ⟨.text _, List.forall_mem_singleton.2 (.int _)⟩)
  refine (ofEntries_foreseen _ _ hdocumentary).1.2 ⟨?_, ?_⟩
  · simp
  · intro hknown
    obtain ⟨name, hname, heq⟩ := hknown _ List.mem_cons_self
    cases heq
    exact absurd hname (by decide)

/-- A number as a key is not told. -/
theorem not_answers_ofEntries_of_number :
    ¬Answers (some "p") (ofEntries (.ofString "/b") (some "p") [(.int 1, .int 2)]) := by
  rw [ofEntries, checkKeys_of_not_text List.mem_cons_self fun name => by simp]
  rintro ⟨problem, hproblem⟩
  cases hproblem

end

end Settings

end Mustache
