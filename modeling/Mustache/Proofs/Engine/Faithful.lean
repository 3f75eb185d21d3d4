import Mustache.Proofs.Engine.Mirror
import Mustache.Proofs.Render.Ending
import Mustache.Proofs.Render.Repetition

/-!
# Caches that keep to their source

As long as the texts of a source stay what they are, a cache is as good as none: a template that it
keeps for a slot is the one that would be made of the slot's text now. What a rendering finds is
then told by the texts alone, and so are the names that it may come to. For an engine over texts in
memory they are those that the template includes, itself or through the texts of such names. A
cache without templates keeps to any source, and goes on doing so whatever is asked of the engine,
except for another text under a name.
-/

namespace Mustache

/-! ## Asking -/

/-- A cache at rest that keeps for a slot only what would be made for it now. -/
structure Cache.Faithful (loader : Loader) (c : Cache) : Prop where
  idle : c.compiling = []
  quiet : c.notices = []
  made : ∀ slot kept, c.find? slot = some kept → loader.made slot = .ok kept.template

namespace Cache.Faithful

variable {loader : Loader} {c : Cache}

/-- An empty cache is faithful to every source. -/
theorem empty (loader : Loader) : Faithful loader {} := ⟨rfl, rfl, nofun⟩

/-- Asking comes to what is made of the slot's text now. -/
theorem get (h : c.Faithful loader) (hcalls : loader.calls = []) (slot : Slot) :
    (c.get loader slot).1.map Kept.template = loader.made slot ∧
      Notice.warnings (c.get loader slot).2.notices = [] ∧
      (c.get loader slot).2.takeNotices.2.Faithful loader := by
  cases hfind : c.find? slot with
  | some kept =>
    rw [get_of_find? hfind]
    exact ⟨(h.made slot kept hfind).symm, by rw [h.quiet]; rfl, h.idle, rfl, h.made⟩
  | none =>
    have hcompiling : slot ∉ c.compiling := by
      rw [h.idle]
      exact List.not_mem_nil
    obtain ⟨told, htold, hget⟩ := get_of_find?_none hcalls hfind hcompiling
    have hwarnings : Notice.warnings (c.notices ++ told) = [] := by
      rw [Notice.warnings_append, h.quiet, htold]
      rfl
    -- nothing was kept, so the answer is what the source makes, and it is kept if it is a template
    rw [hget]
    cases hmade : loader.made slot with
    | error fault => exact ⟨rfl, hwarnings, h.idle, rfl, h.made⟩
    | ok t =>
      refine ⟨rfl, hwarnings, h.idle, rfl, fun other kept hkept => ?_⟩
      have hkept : (c.keep slot t).find? other = some kept := hkept
      rw [find?_keep] at hkept
      split at hkept
      · next heq =>
        rw [heq, ← Option.some.inj hkept]
        exact hmade
      · exact h.made other kept hkept

end Cache.Faithful

/-! ## Included templates -/

section
variable {source : Source} {strict : Bool} {d : Disk} {c : Cache} {name : String}

/-- What cannot be loaded is not made, for the same reason. -/
theorem made_of_load_error {fault : Fault} (h : source.load d name = .error fault) :
    (source.loader d).made ⟨.named, name⟩ = .error fault := by
  simp only [Loader.made, Loader.text, Source.loader, h]
  rfl

/-- What is loaded is compiled under its name. -/
theorem made_of_load_ok {text : String} (h : (source.load d name).map Loaded.text = .ok text) :
    (source.loader d).made ⟨.named, name⟩ =
      (Template.compile text name).mapError .malformed := by
  simp only [Loader.made, Loader.text, Source.loader, h]
  rfl

namespace Cache.Faithful

/-- What is found for a name for which no text is available. -/
theorem finder_of_load_error (h : c.Faithful (source.loader d)) (strict : Bool) {reason : String}
    (hname : source.load d name = .error (.unavailable name reason)) :
    let found := Engine.finder source strict d name c
    found.template = (if strict then .error (.unavailable name reason) else .ok none) ∧
      Notice.warnings found.notices =
        (if strict then [] else [(Notice.missingInclusion name).message]) ∧
      found.library.Faithful (source.loader d) := by
  obtain ⟨hresult, hwarnings, hafter⟩ := h.get rfl ⟨.named, name⟩
  rw [made_of_load_error hname] at hresult
  dsimp only
  unfold Engine.finder
  rcases hget : c.get (source.loader d) ⟨.named, name⟩ with ⟨result, c'⟩
  rw [hget] at hresult hwarnings hafter
  cases result with
  | ok kept => cases hresult
  | error fault =>
    obtain rfl : fault = .unavailable name reason := Except.error.inj hresult
    cases strict with
    -- a strict engine passes the failure on, a lenient one warns and goes on without the template
    | true => exact ⟨rfl, hwarnings, hafter⟩
    | false =>
      refine ⟨rfl, ?_, hafter⟩
      show Notice.warnings (c'.notices ++ [.missingInclusion name]) = _
      rw [Notice.warnings_append, hwarnings]
      rfl

/-- What is found for a name for which there is a text. -/
theorem finder_of_load_ok (h : c.Faithful (source.loader d)) (strict : Bool) {text : String}
    (hname : (source.load d name).map Loaded.text = .ok text) :
    let found := Engine.finder source strict d name c
    found.template = ((Template.compile text name).mapError .malformed).map some ∧
      Notice.warnings found.notices = [] ∧ found.library.Faithful (source.loader d) := by
  obtain ⟨hresult, hwarnings, hafter⟩ := h.get rfl ⟨.named, name⟩
  rw [made_of_load_ok hname] at hresult
  dsimp only
  unfold Engine.finder
  rcases hget : c.get (source.loader d) ⟨.named, name⟩ with ⟨result, c'⟩
  rw [hget] at hresult hwarnings hafter
  rw [← hresult]
  cases result with
  | ok kept => exact ⟨rfl, hwarnings, hafter⟩
  | error fault =>
    cases ht : Template.compile text name with
    | ok t =>
      rw [ht] at hresult
      cases hresult
    | error e =>
      rw [ht] at hresult
      obtain rfl : fault = .malformed e := Except.error.inj hresult
      exact ⟨rfl, hwarnings, hafter⟩

/-- What is found was made from the text of the name. -/
theorem exists_load_of_finder {t : Template} (h : c.Faithful (source.loader d))
    (hfound : (Engine.finder source strict d name c).template = .ok (some t)) :
    ∃ loaded, source.load d name = .ok loaded ∧ Template.compile loaded.text name = .ok t := by
  obtain ⟨hresult, -, -⟩ := h.get rfl ⟨.named, name⟩
  have hmade : (source.loader d).made ⟨.named, name⟩ = .ok t := by
    rw [← hresult]
    unfold Engine.finder at hfound
    rcases hget : c.get (source.loader d) ⟨.named, name⟩ with ⟨result, c'⟩
    rw [hget] at hfound
    cases result with
    | ok kept => exact congrArg Except.ok (Option.some.inj (Except.ok.inj hfound))
    | error fault =>
      cases fault with
      | unavailable key reason => cases strict <;> cases hfound
      | _ => cases hfound
  obtain ⟨text, htext, ht⟩ := bind_eq_ok_iff.1 hmade
  obtain ⟨loaded, hload, rfl⟩ := map_eq_ok_iff.1 htext
  exact ⟨loaded, hload, mapError_eq_ok_iff.1 ht⟩

end Cache.Faithful

end

/-! ## Texts in memory -/

section
variable {texts : List (String × String)} {strict : Bool} {d : Disk} {c : Cache} {name : String}

/-- A source in memory has the texts it was given and no others. -/
theorem load_of_lookup_none (h : texts.lookup name = none) :
    (Source.memory texts).load d name = .error (.unavailable name "") := by
  rw [Source.load, h]

theorem load_of_lookup_some {text : String} (h : texts.lookup name = some text) :
    ((Source.memory texts).load d name).map Loaded.text = .ok text := by
  rw [Source.load, h]
  rfl

theorem made_of_lookup_none (h : texts.lookup name = none) :
    ((Source.memory texts).loader d).made ⟨.named, name⟩ = .error (.unavailable name "") :=
  made_of_load_error (load_of_lookup_none h)

theorem made_of_lookup_some {text : String} (h : texts.lookup name = some text) :
    ((Source.memory texts).loader d).made ⟨.named, name⟩ =
      (Template.compile text name).mapError .malformed :=
  made_of_load_ok (load_of_lookup_some h)

namespace Cache.Faithful

/-- What is found for a name that has no text. -/
theorem finder_of_lookup_none (h : c.Faithful ((Source.memory texts).loader d)) (strict : Bool)
    (hname : texts.lookup name = none) :
    let found := Engine.finder (.memory texts) strict d name c
    found.template = (if strict then .error (.unavailable name "") else .ok none) ∧
      Notice.warnings found.notices =
        (if strict then [] else [(Notice.missingInclusion name).message]) ∧
      found.library.Faithful ((Source.memory texts).loader d) :=
  h.finder_of_load_error strict (load_of_lookup_none hname)

/-- What is found for a name that has a text. -/
theorem finder_of_lookup_some (h : c.Faithful ((Source.memory texts).loader d)) (strict : Bool)
    {text : String} (hname : texts.lookup name = some text) :
    let found := Engine.finder (.memory texts) strict d name c
    found.template = ((Template.compile text name).mapError .malformed).map some ∧
      Notice.warnings found.notices = [] ∧
      found.library.Faithful ((Source.memory texts).loader d) :=
  h.finder_of_load_ok strict (load_of_lookup_some hname)

end Cache.Faithful

/-! ## Answers -/

/-- What the engine makes of a name, with no cache. -/
def Engine.answer (texts : List (String × String)) (strict : Bool) (name : String) :
    Except Fault (Option Template) :=
  match texts.lookup name with
  | none => if strict then .error (.unavailable name "") else .ok none
  | some text => ((Template.compile text name).mapError .malformed).map some

/-- Caches that keep to their texts answer as if there were no cache. -/
theorem Engine.answers_finder (texts : List (String × String)) (strict : Bool) (d : Disk) :
    (finder (.memory texts) strict d).Answers (answer texts strict)
      (Cache.Faithful ((Source.memory texts).loader d)) := by
  constructor
  · intro c hc name
    unfold answer
    cases hname : texts.lookup name with
    | none => exact (hc.finder_of_lookup_none strict hname).1
    | some text => exact (hc.finder_of_lookup_some strict hname).1
  · intro c hc name
    cases hname : texts.lookup name with
    | none => exact (hc.finder_of_lookup_none strict hname).2.2
    | some text => exact (hc.finder_of_lookup_some strict hname).2.2

/-! ## Names that a rendering may come to -/

/-- The names that a template includes, itself or through the texts of names that it includes. -/
inductive Template.Includes (texts : List (String × String)) (t : Template) : String → Prop
  | own {name : String} (h : name ∈ Node.allInclusions t.nodes) : Includes texts t name
  | through {outer text name : String} (h : Includes texts t outer)
      (htext : texts.lookup outer = some text) (hname : name ∈ Template.namesIncluded text) :
      Includes texts t name

/-- All names in a template and in some texts. -/
def Template.namesWith (texts : List (String × String)) (t : Template) : List String :=
  Node.allInclusions t.nodes ++ texts.flatMap fun entry => Template.namesIncluded entry.2

/-- What a template includes is named in it or in one of the texts. -/
theorem Template.Includes.mem_namesWith {t : Template} (h : t.Includes texts name) :
    name ∈ t.namesWith texts := by
  cases h with
  | own h => exact List.mem_append_left _ h
  | through _ htext hname =>
    exact List.mem_append_right _ (List.mem_flatMap.2 ⟨_, mem_of_lookup htext, hname⟩)

/-- A compiled template does not come to a template without a name. -/
theorem Template.Includes.ne_empty {t : Template} {text key : String}
    (ht : Template.compile text key = .ok t) (h : t.Includes texts name) : name ≠ "" := by
  rintro rfl
  cases h with
  | own h => exact Template.empty_not_mem_namesIncluded text (nodes_of_compile ht ▸ h)
  | through _ _ hname => exact Template.empty_not_mem_namesIncluded _ hname

theorem Template.compile_of_parse {text : String} {nodes : List Node}
    (h : Template.parse text = .ok nodes) (name : String) :
    Template.compile text name =
      .ok ⟨if name = "" then Template.textKey text else name, nodes⟩ := by
  rw [Template.compile, h]

/-- The key of a template is its name, or one made from the text if it has none. -/
theorem Template.key_eq_of_compile {text : String} {t : Template}
    (ht : Template.compile text name = .ok t) :
    t.key = if name = "" then Template.textKey text else name := by
  unfold Template.compile at ht
  split at ht
  · cases ht
  · rw [← Except.ok.inj ht]

/-- The key of a template that is compiled under a name. -/
theorem Template.key_of_compile {text : String} {t : Template} (hname : name ≠ "")
    (ht : Template.compile text name = .ok t) : t.key = name :=
  (Template.key_eq_of_compile ht).trans (if_neg hname)

/-- A template that a rendering may come to: the one that is rendered, or that of the text of a name
that it includes. -/
def Template.Meets (texts : List (String × String)) (t u : Template) : Prop :=
  u = t ∨ ∃ name text, t.Includes texts name ∧ texts.lookup name = some text ∧
    Template.compile text name = .ok u

/-- What is included by a template that a rendering may come to. -/
theorem Template.Meets.includes {t u : Template} (h : t.Meets texts u)
    (hname : name ∈ Node.allInclusions u.nodes) : t.Includes texts name := by
  rcases h with rfl | ⟨outer, text, houter, htext, hu⟩
  · exact .own hname
  · exact houter.through htext (nodes_of_compile hu ▸ hname)

/-- The key of a template that a rendering may come to. -/
theorem Template.Meets.key {t u : Template} {text key : String}
    (ht : Template.compile text key = .ok t) (h : t.Meets texts u) :
    u.key = t.key ∨ t.Includes texts u.key ∧ (texts.lookup u.key).isSome := by
  rcases h with rfl | ⟨name, text, hname, htext, hu⟩
  · exact .inl rfl
  · rw [Template.key_of_compile (hname.ne_empty ht) hu, htext]
    exact .inr ⟨hname, rfl⟩

/-- The keys that rendering meets are the template's own and names in the texts. -/
theorem Template.Meets.key_mem {t u : Template} {text key : String}
    (ht : Template.compile text key = .ok t) (h : t.Meets texts u) :
    u.key ∈ t.key :: t.namesWith texts := by
  rcases h.key ht with heq | ⟨hname, -⟩
  · exact heq ▸ List.mem_cons_self
  · exact List.mem_cons_of_mem _ hname.mem_namesWith

/-- The depth that an engine allows covers the template and all names in it and in the texts. -/
theorem Template.length_namesWith_lt (t : Template) :
    (t.namesWith texts).length < Engine.depthBound ⟨.memory texts, strict, c⟩ d t := by
  have hlt := length_reachableNames_lt d texts strict c t
  simp only [reachableNames, List.length_append, Template.namesWith] at hlt ⊢
  omega

end

/-! ## Engines in use -/

/-- An engine with given texts, whose cache keeps to them. -/
structure Engine.KeepsTo (d : Disk) (source : Source) (strict : Bool) (e : Engine) : Prop where
  source_eq : e.source = source
  strict_eq : e.strict = strict
  cache : e.cache.Faithful (source.loader d)

/-- What a rendering by an engine is made of. -/
theorem Engine.render_eq_run (e : Engine) (d : Disk) (t : Template) (data : Value) (sink : Sink) :
    e.render d t data sink =
      let run := Mustache.render (finder e.source e.strict d) (e.depthBound d t) t data sink e.cache
      (run.1, run.2.sink, run.2.notices, { e with cache := run.2.library }) := rfl

namespace Engine.KeepsTo

variable {d : Disk} {source : Source} {strict : Bool} {e : Engine}

theorem get (h : e.KeepsTo d source strict) (slot : Slot) :
    (e.get d slot).1.map Kept.template = (source.loader d).made slot ∧
      (e.get d slot).2.2.KeepsTo d source strict := by
  obtain ⟨rfl, rfl, hcache⟩ := h
  obtain ⟨hmade, -, hafter⟩ := hcache.get rfl slot
  exact ⟨hmade, rfl, rfl, hafter⟩

/-- What comes of compiling a text. -/
theorem compile (h : e.KeepsTo d source strict) (text : String) :
    (e.compile d text).1.map Kept.template = (Template.compile text "").mapError .malformed ∧
      (e.compile d text).2.2.KeepsTo d source strict := h.get ⟨.inline, text⟩

/-- Finding a partial leaves the cache as getting it does. -/
theorem library_finder (name : String) (c : Cache) :
    (finder source strict d name c).library =
      (c.get (source.loader d) ⟨.named, name⟩).2.takeNotices.2 := by
  unfold finder
  rcases c.get (source.loader d) ⟨.named, name⟩ with ⟨result, c'⟩
  cases result with
  | ok kept => rfl
  | error fault =>
    cases fault with
    | unavailable key reason =>
      cases strict with
      | true => rfl
      | false => rfl
    | _ => rfl

/-- Rendering does not part an engine from its source. -/
theorem render (h : e.KeepsTo d source strict) (t : Template) (data : Value) (sink : Sink) :
    (e.render d t data sink).2.2.2.KeepsTo d source strict := by
  obtain ⟨rfl, rfl, hcache⟩ := h
  have hfinder (name : String) (c : Cache) (hc : c.Faithful (e.source.loader d)) :
      (finder e.source e.strict d name c).library.Faithful (e.source.loader d) := by
    rw [library_finder]
    exact (hc.get rfl ⟨.named, name⟩).2.2
  have hwalk := Walk.ends_template_of_finder hfinder (e.depthBound d t) [] (.ofRoot data) t
  exact ⟨rfl, rfl, (hwalk.render ⟨fun _ => trivial, fun _ _ => trivial, trivial⟩ sink hcache).1⟩

end Engine.KeepsTo

/-- A request that replaces no text leaves the engine with a cache that keeps to its source. -/
theorem Session.keepsTo_step {d : Disk} {source : Source} {strict : Bool}
    {s : Session Engine Kept} (h : s.state.KeepsTo d source strict) {request : Request}
    (hreplace : ∀ name text, request ≠ .replace name text) :
    ((Engine.service d).step s request).2.state.KeepsTo d source strict := by
  cases request with
  | compile text => exact (h.compile text).2
  | compileNamed name => exact (h.get ⟨.named, name⟩).2
  | render place data =>
    cases hplace : s.obtained[place]? with
    | none =>
      simp only [Service.step, hplace]
      exact h
    | some kept =>
      simp only [Service.step, hplace]
      exact h.render kept.template data {}
  | renderInto place data sink =>
    cases hplace : s.obtained[place]? with
    | none =>
      simp only [Service.step, hplace]
      exact h
    | some kept =>
      simp only [Service.step, hplace]
      exact h.render kept.template data sink
  -- an empty cache is faithful to anything
  | clear =>
    obtain ⟨hsource, hstrict, hcache⟩ := h
    exact ⟨hsource, hstrict, hcache.idle, rfl, nofun⟩
  | isCached slot => exact h
  | size => exact h
  | replace name text => exact absurd rfl (hreplace name text)

/-- As long as no text is replaced, whatever is asked of an engine, its cache keeps to the texts. -/
theorem Engine.keepsTo_after (d : Disk) (texts : List (String × String)) (strict : Bool)
    {requests : List Request} (hreplace : ∀ name text, .replace name text ∉ requests) :
    ((Engine.service d).after (Engine.start texts strict) requests).state.KeepsTo d (.memory texts)
      strict := by
  have hrun (s : Session Engine Kept) (h : s.state.KeepsTo d (.memory texts) strict) :
      ((Engine.service d).after s requests).state.KeepsTo d (.memory texts) strict := by
    induction requests generalizing s with
    | nil => exact h
    | cons request rest ih =>
      refine ih (fun name text hmem => hreplace name text (List.mem_cons_of_mem request hmem)) _ ?_
      refine Session.keepsTo_step h fun name text heq => hreplace name text ?_
      exact heq ▸ List.mem_cons_self
  exact hrun _ ⟨rfl, rfl, .empty _⟩

end Mustache
