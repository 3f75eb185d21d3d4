import Mustache.ContextData
import Mustache.Proofs.Disk.Reading
import Mustache.Settings

/-!
# Settings files and data

A document is taken for settings and for data, whatever its reader is. Both go on with the entries
of a mapping and with none for an empty document, and both refuse a document that cannot be read and
one that holds something else. Only values that are empty and no mappings are taken differently:
settings go on as if there were nothing, data do not.
-/

namespace Mustache

/-- A value that is empty or zero, but neither absent nor a mapping. -/
inductive Value.Hollow : Value → Prop
  | bool : Hollow (.bool false)
  | int : Hollow (.int 0)
  | float {x : Binary64} (h : x.magnitude = 0) : Hollow (.float x)
  | text : Hollow (.text "")
  | bytes : Hollow (.bytes [])
  | buffer (id : BufferId) : Hollow (.buffer id [])
  | list : Hollow (.list [])
  | tuple : Hollow (.tuple [])
  | set : Hollow (.set [])
  | frozenSet : Hollow (.frozenSet [])
  | range {start stop step : Int} (h : rangeCount start stop step = 0) :
    Hollow (.range start stop step)
  | view (shown : String) : Hollow (.view [] shown)

theorem Value.Hollow.ne_null {v : Value} (h : v.Hollow) : v ≠ .null := by
  rintro rfl
  cases h

theorem Value.Hollow.ne_map {v : Value} (h : v.Hollow) (entries : List (Value × Value)) :
    v ≠ .map entries := by
  rintro rfl
  cases h

namespace Settings

/-- The settings file of a directory. -/
def filePath (root : Path) : Path := root.join (.ofString fileName)

/-- The settings of a directory whose file has some entries. -/
def ofFile (root : Path) (env : Environment) (entries : List (Value × Value)) :
    Except Fault Settings :=
  (ofEntries root (some (filePath root).text) entries).map (·.overridden env)

/-- A document is taken alike for settings and for data: both go on with the same entries, both
refuse it, or its reader fails for both in the same way. -/
inductive TakenAlike (reader : DocumentReader) (d : Disk) (root : Path) (env : Environment)
    (origin : String)
    (text : List Char) : Prop
  | entries {entries : List (Value × Value)}
      (hsettings : load reader d root env = ofFile root env entries)
    (hdata : ContextData.parse reader origin text = .ok (.map entries))
  | refused {problem : SettingsProblem} {problem' : DataProblem}
    (hsettings : load reader d root env = .error (.settings (some (filePath root).text) problem))
    (hdata : ContextData.parse reader origin text = .error (.contextData problem'))
  | senseless {problem : ScalarProblem}
      (hsettings : load reader d root env = .error (.scalar problem))
    (hdata : ContextData.parse reader origin text = .error (.scalar problem))

variable {reader : DocumentReader} {d : Disk} {root : Path} {env : Environment} {origin : String}
  {text : List Char}

/-- What says nothing is absent, a mapping without entries or a hollow value. -/
theorem saysNothing_iff {v : Value} : saysNothing v ↔ v = .null ∨ v = .map [] ∨ v.Hollow := by
  constructor
  · intro h
    unfold saysNothing at h
    split at h
    · exact .inl rfl
    · exact .inr (.inr .bool)
    · exact .inr (.inr .text)
    · exact .inr (.inr .bytes)
    · exact .inr (.inr (.buffer _))
    · exact .inr (.inr .list)
    · exact .inr (.inr .tuple)
    · exact .inr (.inr .set)
    · exact .inr (.inr .frozenSet)
    · exact .inr (.inl rfl)
    · exact .inr (.inr (.view _))
    · next n => exact .inr (.inr (eq_of_beq h ▸ .int))
    · next x => exact .inr (.inr (.float (eq_of_beq h)))
    · exact .inr (.inr (.range (eq_of_beq h)))
    · cases h
  · rintro (rfl | rfl | h)
    · rfl
    · rfl
    · cases h with
      | float h => exact beq_iff_eq.2 h
      | range h => exact beq_iff_eq.2 h
      | _ => rfl

/-- Loading settings reads the entries of the file that is there. -/
theorem load_of_holds (h : d.Holds (filePath root) text) :
    load reader d root env =
      (entriesOf reader (filePath root).text text >>= fun entries =>
        ofEntries root (some (filePath root).text) entries).map (·.overridden env) := by
  obtain ⟨s, hread, rfl⟩ := h
  have hfile : d.isFile (filePath root) = .ok true := Disk.isFile_eq_true_iff.2 ⟨_, hread⟩
  unfold filePath at hread hfile
  unfold load ofDirectory
  dsimp only
  rw [hfile, hread]
  dsimp only
  rw [Text.decode_utf8Bytes]
  rfl

/-- A file of settings that reads as entries gives the settings of the entries. -/
theorem load_of_entriesOf (h : d.Holds (filePath root) text) {entries : List (Value × Value)}
    (hentries : entriesOf reader (filePath root).text text = .ok entries) :
    load reader d root env = ofFile root env entries := by
  rw [load_of_holds h, hentries]
  rfl

theorem load_of_entriesOf_error (h : d.Holds (filePath root) text) {fault : Fault}
    (hfault : entriesOf reader (filePath root).text text = .error fault) :
    load reader d root env = .error fault := by
  rw [load_of_holds h, hfault]
  rfl

/-! ## Kinds of documents -/

section
variable {v : Value}

/-- Settings go on as without entries if the document says nothing. -/
theorem load_of_saysNothing (h : d.Holds (filePath root) text) (hload : reader text = .ok v)
    (hv : saysNothing v) : load reader d root env = ofFile root env [] := by
  refine load_of_entriesOf h ?_
  rw [entriesOf, hload]
  exact if_pos hv

/-- Settings refuse what says something and is no mapping. -/
theorem load_of_not_map (h : d.Holds (filePath root) text) (hload : reader text = .ok v)
    (hv : ¬saysNothing v) (hmap : ∀ entries, v ≠ .map entries) :
    load reader d root env = .error (.settings (some (filePath root).text) .notMapping) := by
  refine load_of_entriesOf_error h ?_
  rw [entriesOf, hload]
  dsimp only
  rw [if_neg hv]
  split
  · next entries => exact absurd rfl (hmap entries)
  · rfl

/-- Data refuse what is there and is no mapping. -/
theorem parse_of_not_map (origin : String) (hload : reader text = .ok v) (hnull : v ≠ .null)
    (hmap : ∀ entries, v ≠ .map entries) :
    ContextData.parse reader origin text =
      .error (.contextData (.notMapping origin v.typeName)) := by
  rw [ContextData.parse, hload]
  split
  · next heq => cases heq
  · next heq => cases heq
  · next heq => exact absurd (Except.ok.inj heq) hnull
  · next entries heq => exact absurd (Except.ok.inj heq) (hmap entries)
  · next w _ _ heq => rw [Except.ok.inj heq]

/-- Both refuse a document that cannot be read, and neither tells of one that is senseless. -/
theorem takenAlike_of_error (h : d.Holds (filePath root) text) {problem : DocumentProblem}
    (hload : reader text = .error problem) : TakenAlike reader d root env origin text := by
  cases problem with
  | unreadable explanation =>
    have hentries : entriesOf reader (filePath root).text text =
        .error (.settings (some (filePath root).text) (.unreadable explanation)) := by
      rw [entriesOf, hload]
    exact .refused (load_of_entriesOf_error h hentries) (by rw [ContextData.parse, hload])
  | scalar problem =>
    have hentries : entriesOf reader (filePath root).text text = .error (.scalar problem) := by
      rw [entriesOf, hload]
    exact .senseless (load_of_entriesOf_error h hentries) (by rw [ContextData.parse, hload])

/-- Both go on with the entries of a mapping. -/
theorem takenAlike_of_map (h : d.Holds (filePath root) text) {entries : List (Value × Value)}
    (hload : reader text = .ok (.map entries)) : TakenAlike reader d root env origin text := by
  refine TakenAlike.entries (?_ : _ = ofFile root env entries) ?_
  · cases entries with
    | nil => exact load_of_saysNothing h hload rfl
    | cons entry rest =>
      refine load_of_entriesOf h ?_
      rw [entriesOf, hload]
      rfl
  · rw [ContextData.parse, hload]

end

/-- Hollow values are the only documents that are not taken alike. -/
theorem not_takenAlike_of_hollow (h : d.Holds (filePath root) text) {v : Value}
    (hload : reader text = .ok v) (hv : v.Hollow) : ¬TakenAlike reader d root env origin text := by
  have hdata := parse_of_not_map origin hload hv.ne_null hv.ne_map
  have hsettings : load reader d root env = .ok ((ofRoot root).overridden env) :=
    load_of_saysNothing h hload (saysNothing_iff.2 (.inr (.inr hv)))
  intro htaken
  cases htaken with
  | entries _ h => cases hdata.symm.trans h
  | refused h _ => cases hsettings.symm.trans h
  | senseless h _ => cases hsettings.symm.trans h

/-- The text of a settings file is taken for settings as it is taken for data unless its value is
hollow, whatever the reader of documents is. An empty document counts as an empty mapping for both;
what else is no mapping is refused by both, and a hollow value by data alone. -/
theorem takenAlike_iff (h : d.Holds (filePath root) text) (env : Environment) (origin : String) :
    (TakenAlike reader d root env origin text ↔ ∀ v, reader text = .ok v → ¬v.Hollow) ∧
    (reader text = .ok .null →
      load reader d root env = ofFile root env [] ∧
        ContextData.parse reader origin text = .ok (.map [])) ∧
    (∀ v, reader text = .ok v → v ≠ .null → (∀ entries, v ≠ .map entries) →
      ContextData.parse reader origin text = .error (.contextData (.notMapping origin v.typeName)) ∧
        (¬v.Hollow → load reader d root env =
            .error (.settings (some (filePath root).text) .notMapping)) ∧
        (v.Hollow → load reader d root env = .ok ((ofRoot root).overridden env))) := by
  have hnull (hload : reader text = .ok .null) :
      load reader d root env = ofFile root env [] ∧
        ContextData.parse reader origin text = .ok (.map []) :=
    ⟨load_of_saysNothing h hload rfl, by rw [ContextData.parse, hload]⟩
  have hother (v : Value) (hload : reader text = .ok v) (hne : v ≠ .null)
      (hmap : ∀ entries, v ≠ .map entries) (hv : ¬v.Hollow) :
      load reader d root env = .error (.settings (some (filePath root).text) .notMapping) := by
    refine load_of_not_map h hload (fun hnothing => ?_) hmap
    rcases saysNothing_iff.1 hnothing with heq | heq | hhollow
    · exact hne heq
    · exact hmap [] heq
    · exact hv hhollow
  refine ⟨⟨fun htaken v hload hv => not_takenAlike_of_hollow h hload hv htaken, fun hhollow => ?_⟩,
    hnull, fun v hload hne hmap => ⟨parse_of_not_map origin hload hne hmap,
      hother v hload hne hmap, fun hv =>
        load_of_saysNothing h hload (saysNothing_iff.2 (.inr (.inr hv)))⟩⟩
  cases hload : reader text with
  | error problem => exact takenAlike_of_error h hload
  | ok v =>
    -- a value is absent, a mapping or something that is refused by both unless it is hollow
    by_cases hne : v = .null
    · subst hne
      exact .entries (hnull hload).1 (hnull hload).2
    by_cases hmap : ∃ entries, v = .map entries
    · obtain ⟨entries, rfl⟩ := hmap
      exact takenAlike_of_map h hload
    · have hmap : ∀ entries, v ≠ .map entries := fun entries heq => hmap ⟨entries, heq⟩
      exact .refused (hother v hload hne hmap (hhollow v hload))
        (parse_of_not_map origin hload hne hmap)

/-- A disk with nothing but a settings file. -/
def diskWith (text : String) : Disk := ⟨.folder [(fileName, .file (Text.utf8Bytes text))], []⟩

theorem holds_diskWith (text : String) :
    (diskWith text).Holds (filePath (.ofString ".")) (Text.unifyLines text.toList) :=
      ⟨text, rfl, rfl⟩

/-- A reader that knows the empty document and the empty list, and takes all else for a text. -/
def smallReader : DocumentReader
  | [] => .ok .null
  | ['[', ']'] => .ok (.list [])
  | text => .ok (.text (String.ofList text))

/-- An empty settings file is taken for an empty mapping. -/
theorem takenAlike_empty :
    TakenAlike smallReader (diskWith "") (.ofString ".") [] "data" (Text.unifyLines "".toList) := by
  have hload : smallReader (Text.unifyLines "".toList) = .ok .null := rfl
  obtain ⟨hsettings, hdata⟩ := (takenAlike_iff (holds_diskWith "") [] "data").2.1 hload
  exact .entries hsettings hdata

/-- Settings go on with an empty list, which data refuse. -/
theorem empty_list_not_taken_alike :
    smallReader "[]".toList = .ok (.list []) ∧
      load smallReader (diskWith "[]") (.ofString ".") [] = .ok (ofRoot (.ofString ".")) ∧
      ContextData.parse smallReader "data" "[]".toList =
        .error (.contextData (.notMapping "data" "list")) := by
  have hload : smallReader "[]".toList = .ok (.list []) := rfl
  refine ⟨hload, load_of_saysNothing (holds_diskWith "[]") hload rfl, ?_⟩
  exact parse_of_not_map "data" hload nofun nofun

end Settings

end Mustache
