import Mustache.Command.Run
import Mustache.Proofs.Command.Checking
import Mustache.Proofs.Disk.Opening
import Mustache.Proofs.Engine.Reached
import Mustache.Proofs.Render.Output
import Mustache.Proofs.Source.Loading

/-!
# Rendering into a file

With a file to write to, a template is rendered as it would be into the standard output. The file is
opened when the settings, the template and the data are there, so what goes wrong before touches no
file. From then on the file is empty while included templates are looked up. That makes no
difference unless the file is itself found for a name that the rendering comes to, or the standard
output cannot encode a text that the file takes.
-/

namespace Mustache

/-! ## Templates beside an open file -/

namespace Folder

variable {f : Folder} {d : Disk} {out : List String} {key : String} {paths : List Path}

/-- A key stands for the file at some names. -/
def StandsFor (f : Folder) (d : Disk) (key : String) (out : List String) : Prop :=
  ∃ p, f.find d key = .ok (some p) ∧ d.LeadsTo p out

section
variable (hopen : Entry.Opened out d.root (d.putFile out []).root)
include hopen

/-- The first file of a key is the same one once there is a file to write to, unless it is that
one. -/
theorem firstFile_putFile
    (hp : ∀ p, firstFile (d.putFile out []) paths = .ok (some p) →
      ¬(d.putFile out []).LeadsTo p out) :
    firstFile (d.putFile out []) paths = firstFile d paths := by
  induction paths with
  | nil => rfl
  | cons q rest ih =>
    have hq : ¬(d.putFile out []).LeadsTo q out := by
      rintro ⟨bytes, hlocate⟩
      have hread : (d.putFile out []).read q = .ok bytes := Disk.read_eq_ok_iff.2 ⟨out, hlocate⟩
      have hfirst : firstFile (d.putFile out []) (q :: rest) = .ok (some q) := by
        rw [firstFile, Disk.isFile_eq_true_iff.2 ⟨bytes, hread⟩]
      exact hp q hfirst ⟨bytes, hlocate⟩
    rw [firstFile] at hp ⊢
    rw [firstFile]
    rw [Disk.isFile_putFile hopen hq] at hp ⊢
    cases hfile : d.isFile q with
    | error fault => rfl
    | ok isThere =>
      cases isThere with
      | true => rfl
      | false =>
        rw [hfile] at hp
        exact ih hp

/-- Loading does not see a file that is open, unless that is the file of the key. -/
theorem load_putFile (hkey : ¬f.StandsFor (d.putFile out []) key out) :
    f.load (d.putFile out []) key = f.load d key := by
  have hfind : f.find (d.putFile out []) key = f.find d key := by
    unfold StandsFor at hkey
    unfold find at hkey ⊢
    split
    · rfl
    · next paths hpaths =>
      refine firstFile_putFile hopen fun p hp hleads => hkey ⟨p, ?_, hleads⟩
      rw [hpaths]
      exact hp
  unfold load
  rw [hfind]
  cases hfound : f.find d key with
  | error fault => rfl
  | ok p? =>
    cases p? with
    | none => rfl
    | some p =>
      have hp : ¬(d.putFile out []).LeadsTo p out := fun hleads =>
        hkey ⟨p, hfind.trans hfound, hleads⟩
      obtain ⟨bytes, hread⟩ := Disk.isFile_eq_true_iff.1 (isFile_of_find hfound)
      dsimp only
      rw [hread, (Disk.read_putFile hopen hp).2 hread]

end

end Folder

namespace Command

/-! ## What comes before the file is opened -/

/-- What there is when a template is about to be rendered. -/
structure Prepared where
  settings : Settings
  engine : Engine
  template : Template
  context : Value

variable {s : Surroundings} {verbose : Bool} {root : Option String} {template : String}
  {inline : Bool} {data : Option String}

/-- The template of a command line, which is a text or the name of one. -/
def compileFor (s : Surroundings) (settings : Settings) (template : String) (inline : Bool) :
    Except Fault Kept × List Notice × Engine :=
  if inline then (engineFor settings).compile s.disk template
  else (engineFor settings).compileNamed s.disk template

/-- Everything that comes before a rendering: the log and the settings, the template, the data. -/
def prepare (s : Surroundings) (verbose : Bool) (root : Option String) (template : String)
    (inline : Bool) (data : Option String) : Except Fault Prepared := do
  let _ ← Log.setUp verbose s.environment
  let settings ← settingsFor s root
  let kept ← (compileFor s settings template inline).1
  let context ← ContextData.load s.libraries.document s.disk data s.stdin
  return ⟨settings, (compileFor s settings template inline).2.2, kept.template, context⟩

/-- All that goes before rendering succeeds part by part. -/
theorem prepare_eq_ok_iff {ready : Prepared} :
    prepare s verbose root template inline data = .ok ready ↔
      ∃ log settings kept context, Log.setUp verbose s.environment = .ok log ∧
        settingsFor s root = .ok settings ∧
        (compileFor s settings template inline).1 = .ok kept ∧
        ContextData.load s.libraries.document s.disk data s.stdin = .ok context ∧
        ready =
          ⟨settings, (compileFor s settings template inline).2.2, kept.template, context⟩ := by
  unfold prepare
  simp only [bind_eq_ok_iff]
  constructor
  · rintro ⟨log, hlog, settings, hsettings, kept, hkept, context, hcontext, hready⟩
    exact ⟨log, settings, kept, context, hlog, hsettings, hkept, hcontext,
      (Except.ok.inj hready).symm⟩
  · rintro ⟨log, settings, kept, context, hlog, hsettings, hkept, hcontext, rfl⟩
    exact ⟨log, hlog, settings, hsettings, kept, hkept, context, hcontext, rfl⟩

/-- The engine and the template that a rendering starts with. -/
theorem compileFor_spec (s : Surroundings) (settings : Settings) (template : String)
    (inline : Bool) :
    (compileFor s settings template inline).2.2.KeepsTo s.disk (.folder settings.folder)
        settings.strict ∧
      ∀ kept, (compileFor s settings template inline).1 = .ok kept →
        ∃ text key, Template.compile text key = .ok kept.template := by
  have hspec (slot : Slot) := (keepsTo_engineFor s.disk settings).get slot
  have hmade (slot : Slot) {kept : Kept}
      (hkept : ((engineFor settings).get s.disk slot).1 = .ok kept) :
      ∃ text key, Template.compile text key = .ok kept.template := by
    have hslot := (hspec slot).1
    rw [hkept] at hslot
    obtain ⟨text, -, ht⟩ := bind_eq_ok_iff.1 hslot.symm
    exact ⟨text, slot.name, mapError_eq_ok_iff.1 ht⟩
  cases inline with
  | true => exact ⟨(hspec ⟨.inline, template⟩).2, fun _ => hmade ⟨.inline, template⟩⟩
  | false => exact ⟨(hspec ⟨.named, template⟩).2, fun _ => hmade ⟨.named, template⟩⟩

/-! ## The two renderings -/

/-- The standard output can encode everything that is written into a sink. -/
def Surroundings.Encodes (s : Surroundings) (sink : Sink) : Prop :=
  ∀ chunk ∈ sink.chunks, s.objection chunk = none

/-- A rendering into the standard output is one into a sink that takes everything, if it can encode
what that sink takes. -/
theorem render_stdout {e : Engine} {t : Template} {data : Value}
    (h : s.Encodes (e.render s.disk t data {}).2.1) :
    let taken := e.render s.disk t data {}
    let printed := e.render s.disk t data s.stdout
    printed.1 = taken.1 ∧ printed.2.1.text = taken.2.1.text ∧ printed.2.2.1 = taken.2.2.1 := by
  intro taken printed
  have hnone : ∀ chunk ∈ taken.2.1.chunks,
      (s.objection chunk).map (Failure.mk .unencodable) = none := fun chunk hchunk => by
    rw [h chunk hchunk, Option.map_none]
  obtain ⟨hresult, hchunks, hnotices, -⟩ := render_without (Engine.finder e.source e.strict s.disk)
    (e.depthBound s.disk t) t data e.cache hnone
  exact ⟨hresult, congrArg String.join hchunks, hnotices⟩

section
variable {path : String} {out : List String} (hnull : (Path.ofString path).holdsNull = false)
  (hopen : s.disk.writable (Path.ofString path) = .ok out)
include hnull hopen

/-- The part of the two commands that renders. -/
theorem renderTo_file {settings : Settings} {kept : Kept} {context : Value}
    (hkept : (compileFor s settings template inline).1 = .ok kept)
    (hunused : ∀ name ∈ (compileFor s settings template inline).2.2.reached (s.disk.putFile out [])
      kept.template context {}, ¬settings.folder.StandsFor (s.disk.putFile out []) name out)
    (hencodes : s.Encodes ((compileFor s settings template inline).2.2.render s.disk kept.template
      context {}).2.1) :
    let e := (compileFor s settings template inline).2.2
    let toFile := renderTo s e kept.template context (some path)
    let printed := renderTo s e kept.template context none
    toFile.1.result = printed.1.result ∧ toFile.2 = printed.2 ∧ toFile.1.out = "" ∧
      toFile.1.written = some (out, printed.1.out) := by
  intro e
  obtain ⟨he, hcompiled⟩ := compileFor_spec s settings template inline
  obtain ⟨text, key, ht⟩ := hcompiled kept hkept
  have hopened := Disk.opened_of_writable hnull hopen
  -- opening the file makes no key that is asked for mean something else
  have hrender : e.render (s.disk.putFile out []) kept.template context {} =
      e.render s.disk kept.template context {} :=
    Engine.render_eq_of_loads he ht context {} fun name hname =>
      Folder.load_putFile hopened (hunused name hname)
  obtain ⟨hresult, htext, hnotices⟩ := render_stdout hencodes
  unfold renderTo
  dsimp only
  rw [hnull, if_neg Bool.false_ne_true, hopen]
  dsimp only
  rw [hrender, htext, hresult, hnotices]
  exact ⟨rfl, rfl, rfl, rfl⟩

end

/-! ## The two commands -/

/-- The command compiles first, reads the data next and opens the output last. -/
theorem runRender_eq (s : Surroundings) (settings : Settings) (template : String) (inline : Bool)
    (data output : Option String) :
    runRender s settings template inline data output =
      match (compileFor s settings template inline).1 with
      | .error fault => ({ result := .error fault }, (compileFor s settings template inline).2.1)
      | .ok kept =>
        match ContextData.load s.libraries.document s.disk data s.stdin with
        | .error fault => ({ result := .error fault }, (compileFor s settings template inline).2.1)
        | .ok context =>
          let rendered := renderTo s (compileFor s settings template inline).2.2 kept.template
            context output
          (rendered.1, (compileFor s settings template inline).2.1 ++ rendered.2) := rfl

/-- Commands that come to the same end and tell the same alike. -/
theorem run_congr {i i' : Invocation} (hverbose : i.verbose = i'.verbose)
    (hresult : (i.perform s).1.result = (i'.perform s).1.result)
    (hnotices : (i.perform s).2 = (i'.perform s).2) :
    (i.run s).ending = (i'.run s).ending ∧ (i.run s).err = (i'.run s).err := by
  unfold Invocation.run
  rw [hverbose]
  split
  · exact ⟨rfl, rfl⟩
  · dsimp only
    rw [hresult, hnotices]
    exact ⟨rfl, rfl⟩

theorem run_of_setUp_error {i : Invocation} {fault : Fault}
    (h : Log.setUp i.verbose s.environment = .error fault) :
    i.run s = { ending := .fault fault } := by
  rw [Invocation.run, h]

/-- What is printed and written comes from the command, and the log adds nothing to it. -/
theorem run_of_setUp {i : Invocation} {log : Log}
    (h : Log.setUp i.verbose s.environment = .ok log) :
    (i.run s).out = (i.perform s).1.out ∧ (i.run s).written = (i.perform s).1.written := by
  rw [Invocation.run, h]
  exact ⟨rfl, rfl⟩

/-- A command that fails before it renders prints nothing and writes no file. -/
theorem run_of_prepare_error {fault : Fault}
    (h : prepare s verbose root template inline data = .error fault) (output : Option String) :
    let run := Invocation.run ⟨verbose, root, .render template inline data output⟩ s
    run.out = "" ∧ run.written = none ∧
      run = Invocation.run ⟨verbose, root, .render template inline data none⟩ s := by
  -- where the log fails nothing else is done, and otherwise the parts fail before they use `output`
  rcases bind_eq_error_iff.1 h with hlog | ⟨log, hlog, h⟩
  · have hrun (output : Option String) :=
      run_of_setUp_error (i := ⟨verbose, root, .render template inline data output⟩) hlog
    intro run
    exact ⟨congrArg Outcome.out (hrun output), congrArg Outcome.written (hrun output),
      (hrun output).trans (hrun none).symm⟩
  have hperform : ∃ result : Product × List Notice, result.1.out = "" ∧ result.1.written = none ∧
      ∀ output,
        Invocation.perform ⟨verbose, root, .render template inline data output⟩ s = result := by
    unfold Invocation.perform
    rcases bind_eq_error_iff.1 h with hsettings | ⟨settings, hsettings, h⟩
    · simp only [hsettings]
      exact ⟨_, rfl, rfl, fun _ => rfl⟩
    simp only [hsettings, runRender_eq]
    rcases bind_eq_error_iff.1 h with hkept | ⟨kept, hkept, h⟩
    · simp only [hkept]
      exact ⟨_, rfl, rfl, fun _ => rfl⟩
    simp only [hkept]
    rcases bind_eq_error_iff.1 h with hcontext | ⟨context, hcontext, h⟩
    · simp only [hcontext]
      exact ⟨_, rfl, rfl, fun _ => rfl⟩
    · cases h
  obtain ⟨result, hout, hwritten, hresult⟩ := hperform
  have hrun := run_of_setUp (i := ⟨verbose, root, .render template inline data output⟩) hlog
  rw [hresult output] at hrun
  intro run
  refine ⟨hrun.1.trans hout, hrun.2.trans hwritten, ?_⟩
  show Invocation.run _ s = Invocation.run _ s
  unfold Invocation.run
  rw [hresult output, hresult none]

/-- A directory with a file that is to be written, and a standard output that can encode ASCII
only. -/
def oneFile : Surroundings where
  libraries := ⟨fun _ => .ok .null, fun _ => .error .incomplete⟩
  disk := ⟨.folder [("o.txt", .file [66])], []⟩
  environment := []
  stdin := ""
  objection text := if text.toList.all (·.toNat < 128) then none else some "not in ASCII"

/-- A directory with a template that includes another one, which is not there. -/
def oneInclusion : Surroundings where
  libraries := ⟨fun _ => .ok .null, fun _ => .error .incomplete⟩
  disk := ⟨.folder [("main.mustache", .file [123, 123, 62, 111, 125, 125])], []⟩
  environment := []
  stdin := ""

end Command

end Mustache
