import Mathlib.Logic.Relation
import Mustache.Proofs.Engine.Faithful
import Mustache.Proofs.Render.Ending

/-!
# Cycles of inclusions

A rendering ends with a cycle where it is about to enter a template whose key is that of one that is
being rendered. Behind the outermost template the keys are names, each included by the text of the
one before it, so such a key is on a cycle of names. The outermost template is the exception if it
has no name: its key is made from its text, and where another template has that key for its name,
the one is taken for the other.
-/

namespace Mustache

/-- A name leads to each name that its text includes. -/
def LeadsTo (texts : List (String × String)) (name other : String) : Prop :=
  ∃ text, texts.lookup name = some text ∧ other ∈ Template.namesIncluded text

/-- The templates that a rendering may enter, each with the keys of those that it is entered
through, the outermost first. -/
inductive Template.Opens (texts : List (String × String)) (t : Template) :
    List String → Template → Prop
  | root : Opens texts t [] t
  | inclusion {active : List String} {u v : Template} {name text : String}
      (h : Opens texts t active u) (hname : name ∈ Node.allInclusions u.nodes)
      (htext : texts.lookup name = some text) (hv : Template.compile text name = .ok v) :
      Opens texts t (active ++ [u.key]) v

namespace Template.Opens

variable {texts : List (String × String)} {t u : Template} {text key : String}
  {active : List String}

/-- A template that is opened is one that rendering meets. -/
theorem meets (h : t.Opens texts active u) : t.Meets texts u := by
  induction h with
  | root => exact .inl rfl
  | inclusion _ hname htext hv ih => exact .inr ⟨_, _, ih.includes hname, htext, hv⟩

/-- What is entered through others has a name that is included, which leads to all that it
includes. -/
theorem named (ht : Template.compile text key = .ok t) (h : t.Opens texts active u) :
    (active = [] ∧ u = t) ∨
      t.Includes texts u.key ∧ ∀ name ∈ Node.allInclusions u.nodes, LeadsTo texts u.key name := by
  cases h with
  | root => exact .inl ⟨rfl, rfl⟩
  | @inclusion _ _ _ name text h hname htext hv =>
    have hincludes := h.meets.includes hname
    rw [Template.key_of_compile (hincludes.ne_empty ht) hv]
    exact .inr ⟨hincludes, fun other hother => ⟨text, htext, nodes_of_compile hv ▸ hother⟩⟩

/-- Behind the outermost one, the keys lead to that of the template that is entered. -/
theorem leadsTo (ht : Template.compile text key = .ok t) (h : t.Opens texts active u) :
    ∀ outer ∈ active, outer = t.key ∨ Relation.TransGen (LeadsTo texts) outer u.key := by
  induction h with
  | root => nofun
  | @inclusion active u _ name _ h hname _ hv ih =>
    intro outer houter
    rw [Template.key_of_compile ((h.meets.includes hname).ne_empty ht) hv]
    rcases h.named ht with ⟨rfl, rfl⟩ | ⟨-, hleads⟩
    · exact .inl (List.mem_singleton.1 houter)
    · -- the new name is one step on from the last key, and so from all keys that lead to that one
      have hlast := hleads name hname
      rcases List.mem_append.1 houter with hold | hnew
      · exact (ih outer hold).imp_right fun hlong => hlong.tail hlast
      · rw [List.mem_singleton.1 hnew]
        exact .inr (.single hlast)

/-- If the names that are included are not on cycles, and the key of the template is not among them,
no template is entered through itself. -/
theorem key_not_mem (ht : Template.compile text key = .ok t)
    (hacyclic : ∀ name, t.Includes texts name → ¬Relation.TransGen (LeadsTo texts) name name)
    (hown : ¬t.Includes texts t.key) (h : t.Opens texts active u) : u.key ∉ active := by
  intro hmem
  rcases h.named ht with ⟨rfl, -⟩ | ⟨hincludes, -⟩
  · cases hmem
  · rcases h.leadsTo ht u.key hmem with heq | hcycle
    · exact hown (heq ▸ hincludes)
    · exact hacyclic u.key hincludes hcycle

end Template.Opens

/-- The fault is not that a template is entered through itself. -/
def Fault.NotCycle (fault : Fault) : Prop := ∀ chain, fault ≠ .cycle chain

theorem Fault.coversPlain_notCycle : CoversPlain NotCycle :=
  ⟨fun _ _ => nofun, fun _ _ _ => nofun, fun _ => nofun⟩

section
variable {texts : List (String × String)} {strict : Bool} {d : Disk}

namespace Walk

/-- Looking up a name finds the template of its text. -/
theorem ends_find (name : String) :
    Ends (Cache.Faithful ((Source.memory texts).loader d))
      (fun found => ∀ u, found = some u → ∃ text, texts.lookup name = some text ∧
        Template.compile text name = .ok u) Fault.NotCycle
      (find (Engine.finder (.memory texts) strict d) name) := by
  intro p hp
  cases hname : texts.lookup name with
  -- a missing partial is refused or passed over
  | none =>
    obtain ⟨hfound, -, hafter⟩ := hp.finder_of_lookup_none strict hname
    refine ⟨hafter, ?_⟩
    rw [find, hfound]
    cases strict with
    | true =>
      intro chain hcycle
      cases hcycle
    | false =>
      intro u hu
      cases hu
  -- one that is there is compiled, and compiling reports no cycle
  | some text =>
    obtain ⟨hfound, -, hafter⟩ := hp.finder_of_lookup_some strict hname
    refine ⟨hafter, ?_⟩
    rw [find, hfound]
    cases hu : Template.compile text name with
    | error e =>
      intro chain hcycle
      cases hcycle
    | ok u =>
      intro v hv
      rw [← Option.some.inj hv]
      exact ⟨text, rfl, hu⟩

/-- The walk over a template, where none is entered through itself, does not end with a cycle. -/
theorem ends_template {t u : Template} {active : List String}
    (hfresh : ∀ active u, t.Opens texts active u → u.key ∉ active) (hu : t.Opens texts active u)
    (strict : Bool) (d : Disk) (depth : Nat) (scope : Scope) :
    Ends (Cache.Faithful ((Source.memory texts).loader d)) (fun _ => True) Fault.NotCycle
      (template (Engine.finder (.memory texts) strict d) depth active scope u) := by
  -- running out of depth is another fault, so there may be any depth
  induction depth generalizing active u scope with
  | zero =>
    rw [template, if_neg (hfresh active u hu)]
    exact ends_throw fun _ h => by cases h
  | succ depth ih =>
    rw [template, if_neg (hfresh active u hu)]
    refine ends_nodes Fault.coversPlain_notCycle (fun name hname scope => ?_) scope
    refine (ends_find name).bind fun found hfound => ?_
    cases found with
    | none => exact ends_pure trivial
    | some v =>
      obtain ⟨text, htext, hv⟩ := hfound v rfl
      exact (ends_tell _).bind fun _ _ => ih (hu.inclusion hname htext hv) scope

end Walk

namespace Engine

variable {e : Engine} {text : String} {kept : Kept}

/-- A rendering in which no template is entered through itself does not end with a cycle. -/
theorem render_of_key_not_mem (he : e.KeepsTo d (.memory texts) strict) {t : Template}
    (hfresh : ∀ active u, t.Opens texts active u → u.key ∉ active) (data : Value) (sink : Sink)
    (chain : List String) : (e.render d t data sink).1 ≠ .error (.cycle chain) := by
  obtain ⟨source, isStrict, c⟩ := e
  obtain ⟨rfl, rfl, hc⟩ := he
  intro hcycle
  have hwalk := Walk.ends_template hfresh .root isStrict d
    (depthBound ⟨.memory texts, isStrict, c⟩ d t) (.ofRoot data)
  obtain ⟨-, hend⟩ := hwalk.render Fault.coversPlain_notCycle sink hc
  exact hend _ hcycle chain rfl

/-- A text is compiled and rendered by an engine over texts in memory. If none of the names that the
text includes, itself or through others, is on a cycle of inclusions, and none is the key that is
made from the text, the rendering does not end with a cycle that it has found. What data raises is
passed on as it came, whatever its type is. -/
theorem render_ne_cycle (he : e.KeepsTo d (.memory texts) strict)
    (hkept : (e.compile d text).1 = .ok kept)
    (hacyclic : ∀ name, kept.template.Includes texts name →
      ¬Relation.TransGen (LeadsTo texts) name name)
    (hown : ¬kept.template.Includes texts (Template.textKey text)) (data : Value) (sink : Sink)
    (chain : List String) :
    let after := (e.compile d text).2.2
    (after.render d kept.template data sink).1 ≠ .error (.cycle chain) ∧
      (after.renderToText d kept.template data).1 ≠ .error (.cycle chain) := by
  intro after
  obtain ⟨hmade, hafter⟩ := he.compile text
  rw [hkept] at hmade
  have ht : Template.compile text "" = .ok kept.template := mapError_eq_ok_iff.1 hmade.symm
  have hkey : kept.template.key = Template.textKey text :=
    (Template.key_eq_of_compile ht).trans (if_pos rfl)
  have hfresh (active : List String) (u : Template) (h : kept.template.Opens texts active u) :
      u.key ∉ active := h.key_not_mem ht hacyclic (hkey ▸ hown)
  have hrender (sink : Sink) :
      (after.render d kept.template data sink).1 ≠ .error (.cycle chain) :=
    render_of_key_not_mem hafter hfresh data sink chain
  exact ⟨hrender sink, fun htext => hrender {} (map_eq_error_iff.1 htext)⟩

end Engine

end

/-! ## A text and two names -/

instance decidableEqExcept {ε α : Type} [DecidableEq ε] [DecidableEq α] :
    DecidableEq (Except ε α)
  | .ok a, .ok b => decidable_of_iff (a = b) ⟨congrArg Except.ok, Except.ok.inj⟩
  | .error e, .error e' => decidable_of_iff (e = e') ⟨congrArg Except.error, Except.error.inj⟩
  | .ok _, .error _ => isFalse nofun
  | .error _, .ok _ => isFalse nofun

section
variable {b text : String} (hparse : Template.parse text = .ok [.inclusion b])
include hparse

/-- The first of two names leads to the second one, which leads nowhere. -/
theorem leadsTo_pair {name other : String} (h : LeadsTo [("a", text), (b, "x")] name other) :
    name = "a" ∧ other = b := by
  have hparse' : Template.parse "x" = .ok [.text "x"] := by with_unfolding_all rfl
  obtain ⟨found, hfound, hother⟩ := h
  simp only [List.lookup_cons, List.lookup_nil] at hfound
  split at hfound
  · next heq =>
    rw [← Option.some.inj hfound, Template.namesIncluded_of_parse hparse] at hother
    exact ⟨beq_iff_eq.1 heq, List.mem_singleton.1 hother⟩
  · split at hfound
    · rw [← Option.some.inj hfound, Template.namesIncluded_of_parse hparse'] at hother
      cases hother
    · cases hfound

/-- A text that includes another one, which includes none, is in no cycle. -/
theorem acyclic_pair (hne : b ≠ "a") (name : String) :
    ¬Relation.TransGen (LeadsTo [("a", text), (b, "x")]) name name := by
  intro hcycle
  obtain ⟨_, hfirst, -⟩ := Relation.TransGen.head'_iff.1 hcycle
  obtain ⟨_, -, hlast⟩ := Relation.TransGen.tail'_iff.1 hcycle
  exact hne ((leadsTo_pair hparse hlast).2.symm.trans (leadsTo_pair hparse hfirst).1)

end

namespace Engine

/-- A text that includes the first of two names is compiled. -/
theorem compile_pair (texts : List (String × String)) (d : Disk) :
    ∃ kept, (Engine.compile ⟨.memory texts, true, {}⟩ d "{{>a}}").1 = .ok kept ∧
      kept.template = ⟨Template.textKey "{{>a}}", [.inclusion "a"]⟩ := by
  have hparse : Template.parse "{{>a}}" = .ok [.inclusion "a"] := by with_unfolding_all rfl
  have he : (Engine.mk (.memory texts) true {}).KeepsTo d (.memory texts) true :=
    ⟨rfl, rfl, .empty _⟩
  obtain ⟨hmade, -⟩ := he.compile "{{>a}}"
  rw [Template.compile_of_parse hparse] at hmade
  exact map_eq_ok_iff.1 hmade

/-- The names are not on a cycle, and no rendering of the text ends with one. -/
theorem render_ne_cycle_pair :
    let d : Disk := ⟨.folder [], []⟩
    let e : Engine := ⟨.memory [("a", "{{>b}}"), ("b", "x")], true, {}⟩
    let compiled := e.compile d "{{>a}}"
    ∃ kept, compiled.1 = .ok kept ∧ ∀ chain,
      (compiled.2.2.renderToText d kept.template .null).1 ≠ .error (.cycle chain) := by
  intro d e compiled
  have hparse : Template.parse "{{>b}}" = .ok [.inclusion "b"] := by with_unfolding_all rfl
  obtain ⟨kept, hkept, htemplate⟩ := compile_pair [("a", "{{>b}}"), ("b", "x")] d
  have hown : ¬kept.template.Includes [("a", "{{>b}}"), ("b", "x")]
      (Template.textKey "{{>a}}") := by
    have hkey : Template.textKey "{{>a}}" = "inline:bbd7b710ff6567f2" := by decide +kernel
    rw [htemplate, hkey]
    rintro (hmem | ⟨-, htext, hmem⟩)
    · simp [Node.allInclusions, Node.inclusions] at hmem
    · exact absurd (leadsTo_pair hparse ⟨_, htext, hmem⟩).2 (by decide)
  refine ⟨kept, hkept, fun chain => ?_⟩
  exact (render_ne_cycle ⟨rfl, rfl, .empty _⟩ hkept
    (fun name _ => acyclic_pair hparse (by decide) name) hown .null {} chain).2

/-- The names are not on a cycle, and yet the rendering of the text ends with one: the second name
is the key that is made from the text. -/
theorem render_eq_cycle_of_textKey :
    let d : Disk := ⟨.folder [], []⟩
    let own := "inline:bbd7b710ff6567f2"
    let texts := [("a", "{{>inline:bbd7b710ff6567f2}}"), (own, "x")]
    let compiled := Engine.compile ⟨.memory texts, true, {}⟩ d "{{>a}}"
    (∀ name, ¬Relation.TransGen (LeadsTo texts) name name) ∧
    ∃ kept, compiled.1 = .ok kept ∧
      (compiled.2.2.renderToText d kept.template .null).1 = .error (.cycle [own, "a", own]) := by
  intro d own texts compiled
  have hparse : Template.parse "{{>inline:bbd7b710ff6567f2}}" = .ok [.inclusion own] := by
    with_unfolding_all rfl
  obtain ⟨kept, hkept, htemplate⟩ := compile_pair texts d
  refine ⟨acyclic_pair hparse (by decide), kept, hkept, ?_⟩
  rw [htemplate]
  decide +kernel

end Engine

end Mustache
