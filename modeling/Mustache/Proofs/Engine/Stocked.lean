import Mustache.Proofs.Source.Loading
import Mustache.Proofs.Source.Names
import Mustache.Proofs.Text.Utf8

/-!
# Texts in files and in memory

A folder of files in UTF-8 gives the texts that were written, with every line ending as a line feed.
An engine over such a folder does what an engine does that has these texts in memory: it compiles a
name to the same template, and a rendering of it writes the same and ends the same, as long as every
name that may be come to has its text in both or in neither. Of a missing text the two only tell
different reasons. A text in memory keeps its line endings, so the two are alike for a text that was
written exactly if it has no carriage return.
-/

namespace Mustache

/-! ## Reasons -/

/-- A fault without the reason why a text is missing. -/
def Fault.bare : Fault → Fault
  | .unavailable key _ => .unavailable key ""
  | fault => fault

/-- Failures of the sink name no text that could be left out. -/
theorem Fault.bare_ofSink (phase : OutputPhase) (failure : Failure) :
    (Fault.ofSink phase failure).bare = Fault.ofSink phase failure := by
  unfold ofSink
  split <;> rfl

variable {L : Type}

/-- The same templates, with faults that give no reason. -/
def Finder.bare (finder : Finder L) : Finder L := fun name l =>
  { finder name l with template := (finder name l).template.mapError Fault.bare }

namespace Walk

variable {α β : Type}

/-- The second walk is the first one with faults that give no reason. -/
def Bares (w v : Walk L α) : Prop := ∀ p, v p = ((w p).1.mapError Fault.bare, (w p).2)

/-- What goes on from the same answer is bared part by part. -/
theorem Bares.bind {w v : Walk L α} {f g : α → Walk L β} (h : Bares w v)
    (hf : ∀ a, Bares (f a) (g a)) : Bares (w >>= f) (v >>= g) := by
  intro p
  rw [bind_apply, bind_apply, h p]
  rcases w p with ⟨result, p'⟩
  cases result with
  | error fault => rfl
  | ok a => exact hf a p'

/-- Walks stay bared of their faults through everything that a rendering is put together from. -/
theorem congruence_bares : Congruence fun {_} (w : Walk L _) (v : Walk L _) => Bares w v where
  value _ _ := rfl
  andThen := Bares.bind
  consult f p := by
    rw [consult_apply]
    cases (f p.memory).1 <;> rfl
  unsupported _ := rfl
  chunk chunk p := by
    unfold write
    cases p.sink.write chunk with
    | ok sink => rfl
    | error failure => exact congrArg (·, p) (congrArg Except.error (Fault.bare_ofSink _ _).symm)

/-- Rendering with a finder that is bared is rendering, with its faults bared. -/
theorem bares_template (finder : Finder L) (depth : Nat) (active : List String) (scope : Scope)
    (t : Template) :
    Bares (template finder depth active scope t) (template finder.bare depth active scope t) :=
  congruence_bares.template _ _ (fun _ _ => rfl) (fun _ => rfl) (fun _ _ => rfl) (fun _ _ => rfl)
    depth active scope t

end Walk

/-- The end of a rendering is bared as its fault is. -/
theorem Progress.finish_bare (p : Progress L) (result : Except Fault Unit) :
    p.finish (result.mapError Fault.bare) =
      ((p.finish result).1.mapError Fault.bare, (p.finish result).2) := by
  unfold Progress.finish
  rcases p.sink.flush with ⟨_ | failure, sink⟩
  · rfl
  · cases result with
    | ok _ => exact congrArg (·, _) (congrArg Except.error (Fault.bare_ofSink _ _).symm)
    | error fault =>
      dsimp only [Except.mapError]
      split <;> rfl

/-- A rendering where faults give no reason is the same but for the reasons. -/
theorem render_bare (finder : Finder L) (depth : Nat) (t : Template) (data : Value) (sink : Sink)
    (library : L) :
    render finder.bare depth t data sink library =
      ((render finder depth t data sink library).1.mapError Fault.bare,
        (render finder depth t data sink library).2) := by
  have hwalk := Walk.bares_template finder depth [] (.ofRoot data) t ⟨sink, {}, [], library⟩
  unfold render
  rw [hwalk]
  exact Progress.finish_bare _ _

/-! ## Stocks -/

section
variable {f : Folder} {d : Disk} {texts : List (String × String)} {name : String}

/-- A file in UTF-8 gives its text with every line ending as a line feed. -/
theorem Folder.load_of_utf8 (hutf8 : Encoding.ofName f.encoding = .ok .utf8) {p : Path} {s : String}
    (hfind : f.find d name = .ok (some p)) (hread : d.read p = .ok (Text.utf8Bytes s)) :
    f.load d name = .ok ⟨Text.unified s, some p.text⟩ := by
  simp only [load, hfind, hutf8, hread, Text.decode_utf8Bytes]
  rfl

/-- A name has its text in a file and in memory, or in neither. -/
inductive Stocked (f : Folder) (d : Disk) (texts : List (String × String)) (name : String) : Prop
  | text {p : Path} {s : String} (hfind : f.find d name = .ok (some p))
    (hread : d.read p = .ok (Text.utf8Bytes s)) (htext : texts.lookup name = some (Text.unified s))
  | missing {reason : String} (hload : f.load d name = .error (.unavailable name reason))
    (hnone : texts.lookup name = none)

/-- What the two engines give for a name that is stocked. -/
theorem Stocked.load_eq (hutf8 : Encoding.ofName f.encoding = .ok .utf8)
    (h : Stocked f d texts name) :
    (∃ text, ((Source.folder f).load d name).map Loaded.text = .ok text ∧
        texts.lookup name = some text) ∨
      ∃ reason, (Source.folder f).load d name = .error (.unavailable name reason) ∧
        texts.lookup name = none := by
  cases h with
  | @text p s hfind hread htext =>
    refine .inl ⟨Text.unified s, ?_, htext⟩
    rw [Source.load, Folder.load_of_utf8 hutf8 hfind hread]
    rfl
  | @missing reason hload hnone => exact .inr ⟨reason, hload, hnone⟩

variable {strict : Bool} {t : Template}

/-- The caches of the two engines. -/
structure SideBySide (f : Folder) (d : Disk) (texts : List (String × String)) (c c' : Cache) :
    Prop where
  folder : c.Faithful ((Source.folder f).loader d)
  memory : c'.Faithful ((Source.memory texts).loader d)

/-- Where all names that may be come to are stocked, the two engines answer alike. -/
theorem agree_sideBySide (hutf8 : Encoding.ofName f.encoding = .ok .utf8) (strict : Bool)
    (hstocked : ∀ name, t.Includes texts name → Stocked f d texts name) :
    Walk.Agree (SideBySide f d texts) (t.Includes texts) (t.Meets texts)
      (Engine.finder (.folder f) strict d).bare (Engine.finder (.memory texts) strict d) := by
  -- one name: it is in both stocks or in neither
  have hcases {name : String} (hname : t.Includes texts name) {c c' : Cache}
      (hc : SideBySide f d texts c c') :
      let found := Engine.finder (.folder f) strict d name c
      let found' := Engine.finder (.memory texts) strict d name c'
      found.template.mapError Fault.bare = found'.template ∧
        Notice.warnings found.notices = Notice.warnings found'.notices ∧
        SideBySide f d texts found.library found'.library := by
    rcases (hstocked name hname).load_eq hutf8 with ⟨text, hload, htext⟩ | ⟨reason, hload, hnone⟩
    · obtain ⟨htemplate, hwarnings, hlibrary⟩ := hc.folder.finder_of_load_ok strict hload
      obtain ⟨htemplate', hwarnings', hlibrary'⟩ := hc.memory.finder_of_lookup_some strict htext
      refine ⟨?_, hwarnings.trans hwarnings'.symm, hlibrary, hlibrary'⟩
      rw [htemplate, htemplate']
      -- the same text compiles to the same template, or to the same error
      cases Template.compile text name with
      | ok t => rfl
      | error e => rfl
    · obtain ⟨htemplate, hwarnings, hlibrary⟩ := hc.folder.finder_of_load_error strict hload
      obtain ⟨htemplate', hwarnings', hlibrary'⟩ := hc.memory.finder_of_lookup_none strict hnone
      refine ⟨?_, hwarnings.trans hwarnings'.symm, hlibrary, hlibrary'⟩
      rw [htemplate, htemplate']
      -- only the reason that the folder adds tells the two faults apart
      cases strict with
      | true => rfl
      | false => rfl
  exact
    { template := fun hname hc => (hcases hname hc).1
      warnings := fun hname hc => (hcases hname hc).2.1
      library := fun hname hc => (hcases hname hc).2.2
      known := fun {name c c' u} hname hc hu => by
        have hfound : (Engine.finder (.memory texts) strict d name c').template = .ok (some u) :=
          (hcases hname hc).1.symm.trans hu
        obtain ⟨loaded, hload, hcompile⟩ := hc.memory.exists_load_of_finder hfound
        exact .inr ⟨name, loaded.text, hname, Source.lookup_of_load hload, hcompile⟩ }

/-- The names that may be come to are in the template or in files. -/
theorem Template.Includes.mem_of_stocked (hutf8 : Encoding.ofName f.encoding = .ok .utf8)
    (hstocked : ∀ name, t.Includes texts name → Stocked f d texts name)
    (h : t.Includes texts name) : name ∈ Node.allInclusions t.nodes ++ f.names d := by
  cases h with
  | own h => exact List.mem_append_left _ h
  | @through outer text name houter htext hname =>
    rcases (hstocked outer houter).load_eq hutf8 with ⟨_, hload, hsome⟩ | ⟨_, -, hnone⟩
    · obtain rfl := Option.some.inj (htext.symm.trans hsome)
      obtain ⟨loaded, hloaded, rfl⟩ := map_eq_ok_iff.1 hload
      exact List.mem_append_right _ (Folder.namesIncluded_subset_of_load hloaded hname)
    · exact nomatch htext.symm.trans hnone

/-- Renderings by an engine over a folder and by one over the texts in memory. -/
theorem render_stocked (hutf8 : Encoding.ofName f.encoding = .ok .utf8) {text key : String}
    (ht : Template.compile text key = .ok t)
    (hstocked : ∀ name, t.Includes texts name → Stocked f d texts name) {folder memory : Engine}
    (hfolder : folder.KeepsTo d (.folder f) strict)
    (hmemory : memory.KeepsTo d (.memory texts) strict)
    (data : Value) (sink : Sink) :
    (folder.render d t data sink).1.mapError Fault.bare = (memory.render d t data sink).1 ∧
      (folder.render d t data sink).2.1 = (memory.render d t data sink).2.1 ∧
      Notice.warnings (folder.render d t data sink).2.2.1 =
        Notice.warnings (memory.render d t data sink).2.2.1 := by
  obtain ⟨source, strict, c⟩ := folder
  obtain ⟨rfl, rfl, hc⟩ := hfolder
  obtain ⟨source, strict, c'⟩ := memory
  obtain ⟨rfl, rfl, hc'⟩ := hmemory
  obtain ⟨keys, hle, hle', hkeys⟩ :=
    exists_shared (t.keysFrom (.folder f) d) (t.keysFrom (.memory texts) d)
  -- the key of a template that is come to is one in the files and one in the texts
  have hkey (u : Template) (hu : t.Meets texts u) : u.key ∈ keys := by
    refine hkeys _ ?_ (hu.key_mem ht)
    rcases hu.key ht with heq | ⟨hname, -⟩
    · exact heq ▸ List.mem_cons_self
    · exact List.mem_cons_of_mem _ (hname.mem_of_stocked hutf8 hstocked)
  have hrender := render_matches (agree_sideBySide hutf8 strict hstocked) hkey
    (fun u hu name => hu.includes)
    (Nat.le_trans hle (t.length_keysFrom_le (.folder f) strict c d))
    (Nat.le_trans hle' (t.length_keysFrom_le (.memory texts) strict c' d)) (.inl rfl) data sink
    (⟨hc, hc'⟩ : SideBySide f d texts c c')
  rw [render_bare] at hrender
  obtain ⟨hresult, hmatches⟩ := hrender
  exact ⟨hresult, hmatches.sink, hmatches.warnings⟩

/-- A file in UTF-8 is loaded as the text that was written with every line ending as a line feed, so
as that text exactly if it has no carriage return. An engine over the folder compiles it as an
engine does that has it so in memory. If all names that may be come to are stocked in both, the
renderings write the same, warn of the same and end the same, but for the reason why a text is
missing. -/
theorem folder_as_memory (hutf8 : Encoding.ofName f.encoding = .ok .utf8) {key : String} {p : Path}
    {s : String} (hfind : f.find d key = .ok (some p)) (hread : d.read p = .ok (Text.utf8Bytes s)) :
    (f.load d key).map Loaded.text = .ok (Text.unified s) ∧
      (Text.unified s = s ↔ '\r' ∉ s.toList) ∧
      ∀ {folder memory : Engine}, folder.KeepsTo d (.folder f) strict →
        memory.KeepsTo d (.memory texts) strict → texts.lookup key = some (Text.unified s) →
        (folder.compileNamed d key).1.map Kept.template =
            (memory.compileNamed d key).1.map Kept.template ∧
          ∀ kept, (folder.compileNamed d key).1 = .ok kept →
            (∀ name, kept.template.Includes texts name → Stocked f d texts name) →
            ∀ (data : Value) (sink : Sink),
              let rendered := (folder.compileNamed d key).2.2.render d kept.template data sink
              let rendered' := (memory.compileNamed d key).2.2.render d kept.template data sink
              rendered.1.mapError Fault.bare = rendered'.1 ∧ rendered.2.1 = rendered'.2.1 ∧
                Notice.warnings rendered.2.2.1 = Notice.warnings rendered'.2.2.1 := by
  have hload : ((Source.folder f).load d key).map Loaded.text = .ok (Text.unified s) := by
    rw [Source.load, Folder.load_of_utf8 hutf8 hfind hread]
    rfl
  refine ⟨hload, Text.unified_eq_iff, fun {folder memory} hfolder hmemory htext => ?_⟩
  -- both engines compile the same text under the same name
  obtain ⟨hcompiled, hfolder'⟩ := hfolder.get ⟨.named, key⟩
  obtain ⟨hcompiled', hmemory'⟩ := hmemory.get ⟨.named, key⟩
  rw [made_of_load_ok hload] at hcompiled
  rw [made_of_lookup_some htext] at hcompiled'
  refine ⟨hcompiled.trans hcompiled'.symm, fun kept hkept hstocked data sink => ?_⟩
  have ht : Template.compile (Text.unified s) key = .ok kept.template := by
    refine mapError_eq_ok_iff.1 (hcompiled.symm.trans ?_)
    exact congrArg (Except.map Kept.template) hkept
  exact render_stocked hutf8 ht hstocked hfolder' hmemory' data sink

end

/-- A template in a file and in memory. -/
theorem folder_as_memory_one :
    let folder : Engine := ⟨.folder Folder.usual, true, {}⟩
    let memory : Engine := ⟨.memory [("a", "A")], true, {}⟩
    ∃ kept, (folder.compileNamed Folder.oneTemplate "a").1 = .ok kept ∧
      ∀ (data : Value) (sink : Sink),
        ((folder.compileNamed Folder.oneTemplate "a").2.2.render Folder.oneTemplate kept.template
            data sink).2.1 =
          ((memory.compileNamed Folder.oneTemplate "a").2.2.render Folder.oneTemplate kept.template
            data sink).2.1 := by
  intro folder memory
  have hutf8 : Encoding.ofName Folder.usual.encoding = .ok .utf8 := by decide +kernel
  have hfind : Folder.usual.find Folder.oneTemplate "a" = .ok (some ⟨0, ["a.mustache"]⟩) := by
    decide +kernel
  have hread : Folder.oneTemplate.read ⟨0, ["a.mustache"]⟩ = .ok (Text.utf8Bytes "A") := rfl
  have hsame : Text.unified "A" = "A" := Text.unified_eq_iff.2 (by decide)
  have hparse : Template.parse "A" = .ok [.text "A"] := by with_unfolding_all rfl
  have hfolder : folder.KeepsTo Folder.oneTemplate (.folder Folder.usual) true :=
    ⟨rfl, rfl, .empty _⟩
  have hmemory : memory.KeepsTo Folder.oneTemplate (.memory [("a", "A")]) true :=
    ⟨rfl, rfl, .empty _⟩
  obtain ⟨hload, -, hengines⟩ := folder_as_memory hutf8 hfind hread
  obtain ⟨-, hrender⟩ := hengines hfolder hmemory (by rw [hsame]; rfl)
  have hloaded : ((Source.folder Folder.usual).load Folder.oneTemplate "a").map Loaded.text =
      .ok (Text.unified "A") := hload
  have hcompiled := (hfolder.get ⟨.named, "a"⟩).1
  rw [made_of_load_ok hloaded, hsame, Template.compile_of_parse hparse] at hcompiled
  obtain ⟨kept, hkept, hnodes⟩ := map_eq_ok_iff.1 hcompiled
  refine ⟨kept, hkept, fun data sink => (hrender kept hkept (fun name hname => ?_) data sink).2.1⟩
  -- no name is come to
  have hmem := hname.mem_namesWith
  rw [hnodes, Template.namesWith, List.flatMap_cons, Template.namesIncluded_of_parse hparse] at hmem
  cases hmem

/-- A template whose lines end as on another system. -/
def returnTemplate : Disk := ⟨.folder [("a.mustache", .file (Text.utf8Bytes "x\r\ny"))], []⟩

/-- A carriage return is kept in memory and not when a file is read. -/
theorem folder_not_as_memory_of_return :
    Folder.usual.load returnTemplate "a" = .ok ⟨"x\ny", some "a.mustache"⟩ ∧
      (Source.memory [("a", "x\r\ny")]).load returnTemplate "a" = .ok ⟨"x\r\ny", none⟩ :=
  ⟨by decide +kernel, rfl⟩

end Mustache
