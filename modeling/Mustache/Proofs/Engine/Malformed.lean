import Mathlib.Control.Monad.Basic
import Mustache.Proofs.Engine.Faithful
import Mustache.Proofs.Render.Raised
import Mustache.Proofs.Template.ErrorPosition
import Mustache.Template.Raw

/-!
# Which text an error is about

An included text is compiled under its name, and an error in it carries that name up through all
templates that are being rendered. So whatever a cache holds, an error of syntax that ends a
rendering names the text that is wrong, and says of it what is said when the text is compiled by
itself. Data and sinks may raise such errors as well, and those are passed on as they are.

A text that is not refused compiles, unless there is no name for it and its key would have to be
made of halves of surrogate pairs.
-/

namespace Mustache

/-- A slot that is being compiled and asked for again is a cycle. -/
theorem Cache.get_of_mem_compiling {loader : Loader} {c : Cache} {slot : Slot}
    (hfind : c.find? slot = none) (hcompiling : slot ∈ c.compiling) :
    c.get loader slot = (.error (.cycle (c.compiling.map Slot.label ++ [slot.label])), c) := by
  rw [Cache.get, Caching.get]
  simp only [hfind, if_pos hcompiling]

/-- What goes wrong in asking is a cycle, or goes wrong in making the template of the slot. -/
theorem Cache.fault_of_get {loader : Loader} (hcalls : loader.calls = []) {c : Cache} {slot : Slot}
    {fault : Fault} (h : (c.get loader slot).1 = .error fault) :
    (∃ chain, fault = .cycle chain) ∨ loader.made slot = .error fault := by
  cases hfind : c.find? slot with
  | some kept =>
    rw [get_of_find? hfind] at h
    cases h
  | none =>
    by_cases hcompiling : slot ∈ c.compiling
    · rw [get_of_mem_compiling hfind hcompiling] at h
      exact .inl ⟨_, (Except.error.inj h).symm⟩
    · obtain ⟨told, -, hget⟩ := get_of_find?_none hcalls hfind hcompiling
      rw [hget] at h
      cases hmade : loader.made slot with
      | ok t =>
        rw [hmade] at h
        cases h
      | error other =>
        rw [hmade] at h
        exact .inr (congrArg Except.error (Except.error.inj h))

/-- An error of syntax is the one that a text has by itself, the text of the name that the error
carries. -/
def SyntaxError.IsOwnOf (texts : List (String × String)) (e : SyntaxError) : Prop :=
  ∃ text, texts.lookup e.template = some text ∧ Template.compile text e.template = .error e ∧
    ∃ e', Template.compile text "" = .error e' ∧ e'.problem = e.problem ∧ e'.line = e.line

/-- A fault that is an error of syntax is that of some text by itself. -/
def Fault.BlamesText (texts : List (String × String)) (fault : Fault) : Prop :=
  ∀ e, fault = .malformed e → e.IsOwnOf texts

namespace Engine

variable {texts : List (String × String)} {strict : Bool} {d : Disk}

/-- Faults that are no syntax errors blame no text. -/
theorem coversPlain_blamesText : Fault.CoversPlain (Fault.BlamesText texts) where
  failure := fun _ _ h => by cases h
  output := fun _ _ _ h => by cases h
  unsupported := fun _ h => by cases h

theorem blamesText_cycle (chain : List String) : (Fault.cycle chain).BlamesText texts := by
  intro e h
  cases h

theorem blamesText_exhausted : Fault.exhausted.BlamesText texts := by
  intro e h
  cases h

/-- A text that does not compile under its name is to blame. -/
theorem isOwnOf_of_compile {text name : String} {e : SyntaxError}
    (htext : texts.lookup name = some text) (h : Template.compile text name = .error e) :
    e.IsOwnOf texts := by
  obtain ⟨hname, -⟩ := Template.place_of_compile_error h
  obtain ⟨e', hparse, rfl⟩ := Template.parse_of_compile_error h
  rw [SyntaxError.IsOwnOf, hname]
  refine ⟨text, htext, h, e'.named "", ?_, ?_, ?_⟩
  · rw [Template.compile, hparse]
  · rw [Template.problem_named, Template.problem_named]
  · rw [Template.line_named, Template.line_named]

/-- A template that is not made is not made because of the text that it would be made of. -/
theorem blamesText_of_made {name : String} {fault : Fault}
    (h : ((Source.memory texts).loader d).made ⟨.named, name⟩ = .error fault) :
    fault.BlamesText texts := by
  rintro e rfl
  cases htext : texts.lookup name with
  | none =>
    rw [made_of_lookup_none htext] at h
    cases h
  | some text =>
    rw [made_of_lookup_some htext] at h
    cases hcompile : Template.compile text name with
    | ok t =>
      rw [hcompile] at h
      cases h
    | error e' =>
      rw [hcompile] at h
      obtain rfl : e' = e := Fault.malformed.inj (Except.error.inj h)
      exact isOwnOf_of_compile htext hcompile

/-- An engine passes on what goes wrong in asking its cache. -/
theorem fault_of_finder {source : Source} {name : String} {c : Cache} {fault : Fault}
    (h : (finder source strict d name c).template = .error fault) :
    (c.get (source.loader d) ⟨.named, name⟩).1 = .error fault := by
  unfold finder at h
  rcases hget : c.get (source.loader d) ⟨.named, name⟩ with ⟨result, c'⟩
  rw [hget] at h
  cases result with
  | ok kept => cases h
  | error first =>
    cases first with
    | unavailable key reason =>
      cases strict with
      | true => exact congrArg Except.error (Except.error.inj h)
      | false => cases h
    | _ => exact congrArg Except.error (Except.error.inj h)

/-- Looking for a partial fails with a syntax error only of the text of that partial. -/
theorem ends_find_blamesText (name : String) :
    Walk.Ends (fun _ => True) (fun _ => True) (Fault.BlamesText texts)
      (Walk.find (finder (.memory texts) strict d) name) := by
  intro p _
  refine ⟨trivial, ?_⟩
  split
  · trivial
  · next fault hfault =>
    rcases Cache.fault_of_get rfl (fault_of_finder hfault) with ⟨chain, rfl⟩ | hmade
    · exact blamesText_cycle chain
    · exact blamesText_of_made hmade

/-- So every syntax error that ends a rendering is one of some text in memory. -/
theorem ends_template_blamesText (depth : Nat) (active : List String) (scope : Scope)
    (t : Template) :
    Walk.Ends (fun _ => True) (fun _ => True) (Fault.BlamesText texts)
      (Walk.template (finder (.memory texts) strict d) depth active scope t) :=
  Walk.ends_template_of_find coversPlain_blamesText blamesText_cycle blamesText_exhausted
    ends_find_blamesText depth active scope t

end Engine

/-- Looking for a partial raises nothing of its own kind: what is raised while rendering comes from
data or from the sink. -/
theorem Engine.finder_ne_failure {texts : List (String × String)} {strict : Bool} {d : Disk}
    (f : Failure) (name : String) (c : Cache) :
    (finder (.memory texts) strict d name c).template ≠ .error (.failure f) := by
  intro h
  rcases Cache.fault_of_get rfl (fault_of_finder h) with ⟨chain, hcycle⟩ | hmade
  · cases hcycle
  · cases htext : texts.lookup name with
    | none =>
      rw [made_of_lookup_none htext] at hmade
      cases hmade
    | some text =>
      rw [made_of_lookup_some htext] at hmade
      obtain ⟨e, -, he⟩ := mapError_eq_error_iff.1 hmade
      cases he

/-! ## Texts that are compiled -/

namespace RawText

variable {r : RawText} {name : String}

/-- An error in the stand-in text is the error of the raw text. -/
theorem compile_of_error {e : SyntaxError} (h : Template.compile r.text name = .error e) :
    r.compile name = .error (.malformed e) := by
  rw [compile, h]

/-- A raw text has no syntax errors but those of its stand-in. -/
theorem error_of_compile {e : SyntaxError} (h : r.compile name = .error (.malformed e)) :
    Template.compile r.text name = .error e := by
  cases hcompile : Template.compile r.text name with
  | error e' =>
    rw [compile_of_error hcompile] at h
    rw [Fault.malformed.inj (Except.error.inj h)]
  | ok t =>
    rw [compile, hcompile] at h
    dsimp only at h
    split at h <;> cases h

/-- What becomes of a text, by the lines that the scanner refuses and the nesting of sections. -/
theorem compile_eq_refusal (r : RawText) (name : String) :
    match (Line.split r.text.toList).findSome? Line.refusal? with
    | some e => r.compile name = .error (.malformed (e.named name))
    | none => ∃ tokens, Line.scanAll (Line.split r.text.toList) = .ok tokens ∧
        match Nesting.check tokens with
        | .error refusal =>
          ∃ e, r.compile name = .error (.malformed e) ∧ Nesting.Refusal.ofError e = refusal
        | .ok _ =>
          if name = "" ∧ r.isEncodable = false then r.compile name = .error (.failure unencodable)
          else ∃ t, r.compile name = .ok t := by
  have hrefusal := Template.compile_eq_refusal r.text name
  cases hfound : (Line.split r.text.toList).findSome? Line.refusal? with
  | some e =>
    rw [hfound] at hrefusal
    exact compile_of_error hrefusal
  | none =>
    rw [hfound] at hrefusal
    obtain ⟨tokens, hscan, hcheck⟩ := hrefusal
    refine ⟨tokens, hscan, ?_⟩
    -- the text of the stand-ins compiles, so what is left is whether the raw text has a key
    rw [← hcheck]
    cases hcompile : Template.compile r.text name with
    | error e => exact ⟨e, compile_of_error hcompile, rfl⟩
    | ok t =>
      simp only [Except.map, Except.mapError, compile, hcompile, Bool.and_eq_true,
        decide_eq_true_eq,
        Bool.not_eq_true']
      split
      · rfl
      · exact ⟨t, rfl⟩

end RawText

/-- Whether a fault is an error of syntax: that of a text, or one of that type that has come from
elsewhere. -/
def Fault.isSyntaxError : Fault → Bool
  | .malformed _ => true
  | .failure f => f.kind.hasTrait .malformed
  | _ => false

/-- An error of syntax that ends a rendering is that of a text by itself, or one that the data or
the sink have raised. -/
theorem Engine.source_of_syntaxError {texts : List (String × String)} {strict : Bool}
    {cache : Cache}
    {d : Disk} {t : Template} {data : Value} {sink : Sink} {fault : Fault}
    (h : ((Engine.mk (.memory texts) strict cache).render d t data sink).1 = .error fault)
    (hkind : fault.isSyntaxError = true) :
    (∃ e, fault = .malformed e ∧ e.IsOwnOf texts) ∨
      ∃ f, fault = .failure f ∧ (data.canRaise f = true ∨ sink.Raises f) := by
  rw [Engine.render_eq_run] at h
  cases fault with
  -- the walk ends in syntax errors of texts in memory only, and the flush adds none
  | malformed e =>
    have hwalk : Walk.Ends (fun _ => True) (fun _ => True) (Fault.BlamesText texts)
        (Walk.template (finder (.memory texts) strict d) _ [] (.ofRoot data) t) :=
      ends_template_blamesText (depthBound ⟨.memory texts, strict, cache⟩ d t) _ _ _
    exact .inl ⟨e, rfl, (hwalk.render coversPlain_blamesText sink trivial).2 _ h e rfl⟩
  -- a failure is raised by the sink, or by the data on the walk
  | failure f =>
    refine .inr ⟨f, rfl, ?_⟩
    rcases fault_of_render h with ⟨phase, g, hg, hfault⟩ | hplain
    · unfold Fault.ofSink at hfault
      split at hfault
      · cases hfault
      · exact .inr (Fault.failure.inj hfault ▸ hg)
    · have hbuiltIn : ∀ g, Fault.failure f = .failure g → g.kind.isBuiltIn = false := by
        intro g hg
        rw [← Fault.failure.inj hg]
        exact FailureKind.isBuiltIn_of_hasTrait (by decide) hkind
      rcases source_of_render rfl hbuiltIn ⟨rfl, rfl⟩ hplain with ⟨g, hg, hraises⟩ | ⟨_, _, hfound⟩
      · exact .inl (Fault.failure.inj hg ▸ hraises)
      · exact absurd hfound (finder_ne_failure f _ _)
  | _ => cases hkind

/-- Errors of syntax point at the right template and line. Of a text, the error is that of the first
line that the scanner refuses, and if there is none, that of the nesting of sections; it carries the
name that the text is compiled under, and there is the beginning of a tag on the line that it points
at. A text without either mistake compiles, unless it has no encoding and there is no name for it.
Whatever template an engine over texts in memory renders, and whatever its cache holds, an error of
syntax that ends the rendering carries a name whose text has that error by itself, or it is one that
the data or the sink have raised. -/
theorem Template.malformed_points_right :
    (∀ (r : RawText) (name : String),
      (match (Line.split r.text.toList).findSome? Line.refusal? with
        | some e => r.compile name = .error (.malformed (e.named name))
        | none => ∃ tokens, Line.scanAll (Line.split r.text.toList) = .ok tokens ∧
            match Nesting.check tokens with
            | .error refusal =>
              ∃ e, r.compile name = .error (.malformed e) ∧ Nesting.Refusal.ofError e = refusal
            | .ok _ =>
              if name = "" ∧ r.isEncodable = false then
                r.compile name = .error (.failure RawText.unencodable)
              else ∃ t, r.compile name = .ok t) ∧
      ∀ e, r.compile name = .error (.malformed e) → e.template = name ∧
        ∃ n line, e.line = (n + 1 : Nat) ∧ (Line.split r.text.toList)[n]? = some line ∧
          ['{', '{'] <:+: line.body) ∧
    ∀ (texts : List (String × String)) (strict : Bool) (cache : Cache) (d : Disk) (t : Template)
      (data : Value) (sink : Sink) (fault : Fault),
      ((Engine.mk (.memory texts) strict cache).render d t data sink).1 = .error fault →
      fault.isSyntaxError = true →
      (∃ e text, fault = .malformed e ∧ texts.lookup e.template = some text ∧
        compile text e.template = .error e ∧
        ∃ e', compile text "" = .error e' ∧ e'.problem = e.problem ∧ e'.line = e.line) ∨
      ∃ f, fault = .failure f ∧ (data.canRaise f = true ∨ sink.Raises f) := by
  constructor
  · intro r name
    exact ⟨r.compile_eq_refusal name,
      fun e h => place_of_compile_error (RawText.error_of_compile h)⟩
  · intro texts strict cache d t data sink fault h hkind
    rcases Engine.source_of_syntaxError h hkind with ⟨e, rfl, text, htext, hown⟩ | hraised
    · exact .inl ⟨e, text, rfl, htext, hown⟩
    · exact .inr hraised

/-! A text whose second line cannot be scanned, and a text that is wrong two inclusions deep. -/

/-- The closing tag of the first line closes nothing, but the second line cannot be scanned. And the
error of a text that is included by an included text names the inner one, at the line of the section
that is not closed there. -/
theorem Template.malformed_points_right_nested :
    let unclosed : SyntaxError := ⟨.unclosedSection "x", 2, "inner"⟩
    let texts := [("outer", "a\n{{>inner}}"), ("inner", "b\n{{#x}}\n{{y}}")]
    (RawText.ofString "{{/x}}\n{{}}").compile "page" =
      .error (.malformed ⟨.emptyTag 1, 2, "page"⟩) ∧
    ((Engine.mk (.memory texts) false {}).render ⟨.folder [], []⟩ ⟨"page", [.inclusion "outer"]⟩
      .null {}).1 = .error (.malformed unclosed) ∧
    compile "b\n{{#x}}\n{{y}}" "inner" = .error unclosed := by
  intro unclosed texts
  have hfirst : (Line.split (RawText.ofString "{{/x}}\n{{}}").text.toList).findSome? Line.refusal? =
      some ⟨.emptyTag 1, 2, ""⟩ := by decide +kernel
  have hpage := (malformed_points_right.1 (.ofString "{{/x}}\n{{}}") "page").1
  rw [hfirst] at hpage
  have hrender : ((Engine.mk (.memory texts) false {}).render ⟨.folder [], []⟩
      ⟨"page", [.inclusion "outer"]⟩ .null {}).1 = .error (.malformed unclosed) := by
    decide +kernel
  rcases malformed_points_right.2 texts false {} _ _ _ _ _ hrender rfl with
    ⟨e, text, he, htext, hown, -⟩ | ⟨f, hf, -⟩
  · obtain rfl := Fault.malformed.inj he
    obtain rfl : "b\n{{#x}}\n{{y}}" = text := Option.some.inj htext
    exact ⟨hpage, hrender, hown⟩
  · cases hf

/-- A text of one half of a surrogate pair has no tag in it, and no key. An error of syntax that a
member raises carries no name of a text. -/
theorem Template.half_has_no_key :
    let half : RawText := ⟨"\uFFFD", fun c => c = '\uFFFD', fun _ h => of_decide_eq_true h ▸ rfl⟩
    let failure : Failure := ⟨.other "TemplateSyntaxError" [.user, .malformed], "Empty tag"⟩
    let data : Value := .object [("part", .failingMethod failure)] (.ok none) "<page>" none
    half.compile "" = .error (.failure RawText.unencodable) ∧
    ((Engine.mk (.memory []) true {}).render ⟨.folder [], []⟩ ⟨"page", [.variable "part" true]⟩
      data {}).1 = .error (.failure failure) ∧
    (Fault.failure failure).isSyntaxError = true := by
  refine ⟨?_, ?_, rfl⟩
  · with_unfolding_all rfl
  · decide +kernel

end Mustache
