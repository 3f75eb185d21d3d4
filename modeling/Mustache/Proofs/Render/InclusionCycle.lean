import Mathlib.Data.List.Chain
import Mustache.Proofs.Render.Ending

/-!
# Reported cycles

A rendering that ends with a cycle reports keys. They are the keys of the templates that were being
rendered, from the outermost one inwards, and of the one that was to be entered through them: each
of these templates is included by the one before it, and the last key is the first one that comes
twice. Templates that were included before and have been left again are not among them.
-/

namespace Mustache

namespace Template

variable {templates : List (String × Template)} {t u v : Template} {way : List Template}

/-- Whether the nodes of a template hold, at any depth, an inclusion of another one. -/
def IncludesFrom (templates : List (String × Template)) (u v : Template) : Prop :=
  ∃ name ∈ Node.allInclusions u.nodes, templates.lookup name = some v

/-- Templates from a first one on, each included by the one before it. -/
structure Way (templates : List (String × Template)) (t : Template) (way : List Template) :
    Prop where
  head : way.head? = some t
  linked : way.IsChain (IncludesFrom templates)

theorem Way.single (templates : List (String × Template)) (t : Template) :
    Way templates t [t] := ⟨rfl, .singleton t⟩

/-- A way goes on with what its last template includes. -/
theorem Way.concat (h : Way templates t (way ++ [u])) (hv : IncludesFrom templates u v) :
    Way templates t (way ++ [u] ++ [v]) := by
  refine ⟨?_, h.linked.append (.singleton v) ?_⟩
  · rw [List.head?_append, h.head]
    rfl
  · intro last hlast first hfirst
    rw [List.getLast?_concat] at hlast
    obtain rfl := Option.some.inj hlast
    obtain rfl := Option.some.inj hfirst
    exact hv

/-- The keys of a way that comes back, at its last template and not before, to a key that it has. -/
structure ClosedWay (templates : List (String × Template)) (t : Template) (chain : List String) :
    Prop where
  way : ∃ way, Way templates t way ∧ way.map Template.key = chain
  nodup : chain.dropLast.Nodup
  closed : ∃ key ∈ chain.dropLast, chain.getLast? = some key

/-- A way without repetition that comes back to one of its keys closes. -/
theorem ClosedWay.of_way (h : Way templates t (way ++ [u]))
    (hnodup : (way.map Template.key).Nodup) (hmem : u.key ∈ way.map Template.key) :
    ClosedWay templates t (way.map Template.key ++ [u.key]) := by
  refine ⟨⟨way ++ [u], h, by simp⟩, ?_, u.key, ?_, ?_⟩
  · rwa [List.dropLast_concat]
  · rwa [List.dropLast_concat]
  · rw [List.getLast?_concat]

/-- A closed way has two templates at least, and the first one is that where it starts. -/
theorem ClosedWay.two_le_length {chain : List String} (h : ClosedWay templates t chain) :
    2 ≤ chain.length ∧ chain.head? = some t.key := by
  obtain ⟨key, hmem, -⟩ := h.closed
  obtain ⟨way, hway, rfl⟩ := h.way
  have hpos := List.length_pos_of_mem hmem
  rw [List.length_dropLast] at hpos
  exact ⟨by omega, by rw [List.head?_map, hway.head]; rfl⟩

end Template

/-- A fault that is a cycle reports the keys of a closed way. -/
def Fault.ReportsWay (templates : List (String × Template)) (t : Template) (fault : Fault) : Prop :=
  ∀ chain, fault = .cycle chain → Template.ClosedWay templates t chain

/-- Only inclusions end in a cycle, so of all other faults there is nothing to show. -/
theorem Fault.coversPlain_reportsWay (templates : List (String × Template)) (t : Template) :
    CoversPlain (ReportsWay templates t) where
  failure := fun _ _ => nofun
  output := fun _ _ _ => nofun
  unsupported := fun _ => nofun

namespace Walk

variable {templates : List (String × Template)} {t u : Template}

/-- Looking up an included name gives what the template around it includes. -/
theorem ends_find_lookupFinder {Expected : Fault → Prop} {name : String}
    (hname : name ∈ Node.allInclusions u.nodes) :
    Ends (· = templates) (fun found => ∀ v, found = some v → Template.IncludesFrom templates u v)
      Expected (find lookupFinder name) := by
  rintro p rfl
  rw [find_lookupFinder]
  exact ⟨rfl, fun v hv => ⟨name, hname, hv⟩⟩

theorem ends_throw_closedWay {α : Type} {Kind : List (String × Template) → Prop} {Good : α → Prop}
    {chain : List String} (h : t.ClosedWay templates chain) :
    Ends Kind Good (Fault.ReportsWay templates t) (throw (.cycle chain) : Walk _ α) := by
  refine ends_throw fun chain' hchain => ?_
  rwa [← Fault.cycle.inj hchain]

/-- The walk over the last template of a way, the others being walked around it, ends in no cycle
but one that goes on along this way. -/
theorem ends_template_way {way : List Template} (hway : t.Way templates (way ++ [u]))
    (hnodup : (way.map Template.key).Nodup) (depth : Nat) (scope : Scope) :
    Ends (· = templates) (fun _ => True) (Fault.ReportsWay templates t)
      (template lookupFinder depth (way.map Template.key) scope u) := by
  -- what is entered next is included by `u`, whatever has been entered and left before
  induction depth generalizing way u scope with
  | zero =>
    rw [template.eq_def]
    split
    · next hmem => exact ends_throw_closedWay (.of_way hway hnodup hmem)
    · refine ends_throw ?_
      intro chain hcycle
      cases hcycle
  | succ depth ih =>
    rw [template]
    split
    · next hmem => exact ends_throw_closedWay (.of_way hway hnodup hmem)
    · next hfresh =>
      have hkeys : way.map Template.key ++ [u.key] = (way ++ [u]).map Template.key := by simp
      have hnodup' : ((way ++ [u]).map Template.key).Nodup := by
        rw [← hkeys, List.nodup_append]
        refine ⟨hnodup, by simp, ?_⟩
        rintro key hkey _ hlast rfl
        rw [List.mem_singleton] at hlast
        exact hfresh (hlast ▸ hkey)
      rw [hkeys]
      refine ends_nodes (Fault.coversPlain_reportsWay templates t) (fun name hname scope => ?_)
        scope
      refine (ends_find_lookupFinder hname).bind fun found hfound => ?_
      cases found with
      | none => exact ends_pure trivial
      | some v =>
        have hv : t.Way templates (way ++ [u] ++ [v]) := hway.concat (hfound v rfl)
        exact (ends_tell _).bind fun _ _ => ih hv hnodup' scope

end Walk

/-- A rendering that ends with a cycle reports at least two keys, the first of them that of the
template that is rendered. They are the keys of templates each of which holds, at some depth, an
inclusion of the next one. All but the last are different, and the last is one of them. What data
raises is passed on as it came and is no such end, also if its type is that of a cycle. -/
theorem renderWith_reportsWay {templates : List (String × Template)} {t : Template} {data : Value}
    {sink : Sink} {chain : List String}
    (h : (renderWith templates t data sink).1 = .error (.cycle chain)) :
    (2 ≤ chain.length ∧ chain.head? = some t.key) ∧
    (chain.dropLast.Nodup ∧ ∃ key ∈ chain.dropLast, chain.getLast? = some key) ∧
    ∃ way : List Template, way.map Template.key = chain ∧ way.head? = some t ∧
      way.IsChain fun u v =>
        ∃ name ∈ Node.allInclusions u.nodes, templates.lookup name = some v := by
  have hway : Template.Way templates t ([] ++ [t]) := .single templates t
  have hwalk := Walk.ends_template_way hway List.nodup_nil (templates.length + 1) (.ofRoot data)
  obtain ⟨-, hend⟩ := hwalk.render (Fault.coversPlain_reportsWay templates t) sink rfl
  have hclosed : t.ClosedWay templates chain := hend _ h chain rfl
  obtain ⟨way, hway, hkeys⟩ := hclosed.way
  exact ⟨hclosed.two_le_length, ⟨hclosed.nodup, hclosed.closed⟩, way, hkeys, hway.head, hway.linked⟩

/-- The second template of three includes itself, in a section; the third has been included before,
in every row of a section, and has been left again. -/
theorem renderWith_reportsWay_siblings :
    let leaf : Template := ⟨"leaf", [.text "x"]⟩
    let loop : Template := ⟨"loop", [.inclusion "leaf", .block false "rows" [.inclusion "again"]]⟩
    let templates := [("leaf", leaf), ("loop", loop), ("again", loop)]
    let t : Template :=
      ⟨"t", [.block false "rows" [.inclusion "leaf"], .inclusion "leaf", .inclusion "loop"]⟩
    let data : Value := .map [(.text "rows", .list [.int 1, .int 2])]
    (renderWith templates t data {}).1 = .error (.cycle ["t", "loop", "loop"]) ∧
    ∃ way : List Template, way.map Template.key = ["t", "loop", "loop"] ∧ way.head? = some t ∧
      way.IsChain fun u v =>
        ∃ name ∈ Node.allInclusions u.nodes, templates.lookup name = some v := by
  intro leaf loop templates t data
  have hcycle : (renderWith templates t data {}).1 = .error (.cycle ["t", "loop", "loop"]) := by
    decide +kernel
  exact ⟨hcycle, (renderWith_reportsWay hcycle).2.2⟩

end Mustache
