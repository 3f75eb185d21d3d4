import Mustache.ContextData
import Mustache.Proofs.Disk.Reading

/-!
# What loading data can come to

Loading answers if it gives a mapping or tells what is wrong with the data. There are three things
that it does not foresee: a null character in the name of a file, bytes that are not those of a
text, and a reader of documents that fails for another reason than that the document cannot be read.
Then and only then it gives neither.
-/

namespace Mustache.ContextData

/-- Loading gives a mapping, or tells what is wrong with the data. -/
def Answers : Except Fault Value → Prop
  | .ok v => ∃ entries, v = .map entries
  | .error fault => ∃ problem, fault = .contextData problem

/-- The text that a name stands for: that of the standard input or that of a file. -/
inductive Supplies (d : Disk) (stdin : String) : String → List Char → Prop
  | stdin : Supplies d stdin stdinName stdin.toList
  | file {name : String} {text : List Char} (hname : name ≠ stdinName)
    (h : d.Holds (.ofString name) text) : Supplies d stdin name text

/-- What loading does not foresee of a name. -/
inductive Unforeseen (reader : DocumentReader) (d : Disk) (stdin name : String) : Prop
  | null (hname : name ≠ stdinName) (h : '\x00' ∈ name.toList)
  | bytes {bytes : List UInt8} (hname : name ≠ stdinName)
    (hread : d.read (.ofString name) = .ok bytes) (h : ∀ s, bytes ≠ Text.utf8Bytes s)
  | reader {text : List Char} {problem : ScalarProblem} (htext : Supplies d stdin name text)
    (h : reader text = .error (.scalar problem))

variable {reader : DocumentReader} {d : Disk} {stdin name : String} {text : List Char}
  {bytes : List UInt8}

/-- Parsing answers unless a scalar of the document has no value. -/
theorem answers_parse_iff {origin : String} :
    Answers (parse reader origin text) ↔ ∀ problem, reader text ≠ .error (.scalar problem) := by
  unfold parse
  split
  · next h => simp [Answers, h]
  · next h => simp [Answers, h]
  · next h => simp [Answers, h]
  · next h => simp [Answers, h]
  · next h => simp [Answers, h]

theorem load_stdin : load reader d (some stdinName) stdin =
    parse reader "<stdin>" stdin.toList := rfl

theorem load_file (hname : name ≠ stdinName) :
    load reader d (some name) stdin = ofFile reader d (.ofString name) := if_neg hname

/-- What comes of a file that holds a text. -/
theorem ofFile_of_holds {p : Path} (h : d.Holds p text) :
    ofFile reader d p = parse reader p.text text := by
  obtain ⟨s, hread, rfl⟩ := h
  rw [ofFile, Disk.not_holdsNull_of_read hread, hread]
  dsimp only
  rw [Text.decode_utf8Bytes]
  rfl

/-- Data that can be read is parsed under the name of its origin. -/
theorem load_of_supplies (h : Supplies d stdin name text) :
    ∃ origin, load reader d (some name) stdin = parse reader origin text := by
  cases h with
  | stdin => exact ⟨_, load_stdin⟩
  | file hname h => exact ⟨_, (load_file hname).trans (ofFile_of_holds h)⟩

/-- Nothing is told of what loading does not foresee. -/
theorem Unforeseen.not_answers (h : Unforeseen reader d stdin name) :
    ¬Answers (load reader d (some name) stdin) := by
  cases h with
  | null hname hnull =>
    rw [load_file hname, ofFile, if_pos ((Path.holdsNull_ofString name).2 hnull)]
    rintro ⟨_, hfault⟩
    cases hfault
  | bytes hname hread hbytes =>
    obtain ⟨problem, hproblem⟩ := Text.decode_utf8_eq_error_iff.2 hbytes
    rw [load_file hname, ofFile, Disk.not_holdsNull_of_read hread, hread]
    dsimp only
    rw [hproblem]
    rintro ⟨_, hfault⟩
    cases hfault
  | reader htext hload =>
    obtain ⟨origin, horigin⟩ := load_of_supplies htext
    rw [horigin, answers_parse_iff]
    exact fun hvalue => hvalue _ hload

/-- Loading foresees everything else. -/
theorem answers_of_not_unforeseen (h : ¬Unforeseen reader d stdin name) :
    Answers (load reader d (some name) stdin) := by
  -- a text that is supplied is one that the reader reads or calls unreadable
  have hparse {origin : String} {text : List Char} (htext : Supplies d stdin name text) :
      Answers (parse reader origin text) := by
    rw [answers_parse_iff]
    exact fun problem hload => h (.reader htext hload)
  by_cases hname : name = stdinName
  · subst hname
    exact hparse .stdin
  have hnull : (Path.ofString name).holdsNull ≠ true := fun hnull =>
    h (.null hname ((Path.holdsNull_ofString name).1 hnull))
  rw [load_file hname, ofFile, if_neg hnull]
  cases hread : d.read (.ofString name) with
  | error fault => exact ⟨_, rfl⟩
  | ok bytes =>
    dsimp only
    cases hdecode : Text.decode .utf8 bytes with
    | error problem =>
      exact absurd (.bytes hname hread (Text.decode_utf8_eq_error_iff.1 ⟨problem, hdecode⟩)) h
    | ok s =>
      refine hparse (.file hname ⟨String.ofList s, ?_, ?_⟩)
      · rw [hread, Text.decode_utf8_eq_ok_iff.1 hdecode]
      · rw [String.toList_ofList]

/-- Loading data answers unless there is a null character in the name of the file, its bytes are not
those of a text, or the reader of documents fails for another reason than that the document cannot
be read. -/
theorem answers_load_iff (reader : DocumentReader) (d : Disk) (source : Option String)
    (stdin : String) :
    Answers (load reader d source stdin) ↔
      ∀ name, source = some name → ¬Unforeseen reader d stdin name := by
  cases source with
  | none => exact iff_of_true ⟨[], rfl⟩ nofun
  | some name =>
    constructor
    · intro h _ hname hunforeseen
      cases hname
      exact hunforeseen.not_answers h
    · exact fun h => answers_of_not_unforeseen (h name rfl)

/-- Nothing is told of a file with a byte that starts no character, whatever the reader is. -/
theorem not_answers_load_of_lone_byte :
    ¬∃ reader : DocumentReader,
      Answers (load reader ⟨.folder [("x.yaml", .file [0xff])], []⟩ (some "x.yaml") "") := by
  rintro ⟨reader, hanswers⟩
  have hload : load reader ⟨.folder [("x.yaml", .file [0xff])], []⟩ (some "x.yaml") "" =
      .error (.encoding (.fault ⟨"utf-8", 0xff, 0, 1, "invalid start byte"⟩)) := by
    with_unfolding_all rfl
  rw [hload] at hanswers
  obtain ⟨_, h⟩ := hanswers
  cases h

end Mustache.ContextData
