import Mustache.Proofs.Engine.Snapshot
import Mustache.Proofs.Failing
import Mustache.Proofs.Lookup
import Mustache.Proofs.Render.Simulation
import Mustache.Proofs.Template.Inclusions

/-!
# A cache and its snapshot

A cached template is the compilation of a captured text. Asking a cache for a slot keeps this
relation between the cache and a snapshot, whether the text compiles or not, and so does a
rendering, which asks for the templates that it includes.

Renderings of the two engines may go to different depths. Neither ever goes as deep as it may: the
chain of templates being rendered has different keys, and there are no more keys than tags.
-/

namespace Mustache

/-! ## The state of an engine of snapshots -/

namespace Snapshot

/-- A captured text is found for its slot, and every other slot finds what it found. -/
theorem text?_capture (s : Snapshot) (slot other : Slot) (text : String) :
    (s.capture slot text).text? other = if other = slot then some text else s.text? other := by
  obtain ⟨space, key⟩ := slot
  obtain ⟨space', key'⟩ := other
  unfold text? capture
  by_cases hspace : space' = space
  · subst hspace
    by_cases hkey : key' = key
    · simp [hkey]
    · simp [hkey, lookup_cons_eq_ite]
  · simp [hspace]

/-- Every capture makes the snapshot larger by one. -/
theorem size_capture (s : Snapshot) (slot : Slot) (text : String) :
    (s.capture slot text).size = s.size + 1 := by
  obtain ⟨space, key⟩ := slot
  unfold size capture
  cases space <;> simp <;> omega

/-- The text that a name has for a rendering: the captured one, or else the one of the source. -/
def lasting (s : Snapshot) (name : String) : Option String :=
  (s.text? ⟨.named, name⟩).or (s.source name)

/-- Asking captures at most the text of the slot as it is now, and only if none was captured. -/
theorem ask_state (s : Snapshot) (slot : Slot) :
    (s.ask slot).2 = s ∨ ∃ text, s.text? slot = none ∧ s.current slot = .ok text ∧
      (s.ask slot).2 = s.capture slot text := by
  unfold ask
  split
  · exact .inl rfl
  · next hnone =>
    split
    · exact .inl rfl
    · next text htext =>
      split
      · exact .inl rfl
      · exact .inr ⟨text, hnone, htext, rfl⟩

/-- Asking captures texts and leaves the source alone. -/
theorem source_ask (s : Snapshot) (slot : Slot) : (s.ask slot).2.source = s.source := by
  rcases s.ask_state slot with h | ⟨text, -, -, h⟩
  · rw [h]
  · rw [h]; rfl

/-- Asking captures no other text than the one that would be used anyway. -/
theorem lasting_ask (s : Snapshot) (slot : Slot) : (s.ask slot).2.lasting = s.lasting := by
  rcases s.ask_state slot with h | ⟨text, hnone, htext, h⟩
  · rw [h]
  · rw [h]
    funext name
    unfold lasting
    rw [text?_capture]
    by_cases hslot : (⟨.named, name⟩ : Slot) = slot
    · subst hslot
      have hsource : s.source name = some text := by
        cases hsource : s.source name with
        | none => simp [current, hsource] at htext
        | some t => simpa [current, hsource] using htext
      simp [hnone, capture, hsource]
    · simp [hslot, capture]

/-- What a successful look-up of a name compiles. -/
theorem ask_named {s : Snapshot} {name : String} {t : Template}
    (h : (s.ask ⟨.named, name⟩).1 = .ok t) :
    ∃ text, s.lasting name = some text ∧ Template.compile text name = .ok t := by
  unfold ask at h
  unfold lasting
  split at h
  · next text htext => exact ⟨text, by rw [htext, Option.some_or], mapError_eq_ok_iff.1 h⟩
  · next hnone =>
    rw [hnone, Option.none_or]
    cases hsource : s.source name with
    | none => simp [current, hsource] at h
    | some text =>
      simp only [current, hsource] at h
      split at h
      · cases h
      · next u hu =>
        obtain rfl := Except.ok.inj h
        exact ⟨text, rfl, hu⟩

end Snapshot

/-! ## The relation between a cache and a snapshot -/

/-- A cache at rest holds the compilations of the captured texts and nothing else. -/
structure Mirrors (c : Cache) (s : Snapshot) : Prop where
  idle : c.compiling = []
  quiet : c.notices = []
  found : ∀ slot, (c.find? slot).map (fun kept => .ok kept.template) =
    (s.text? slot).map fun text => Template.compile text slot.name
  size : c.size = s.size

namespace Mirrors

variable {c : Cache} {s : Snapshot} {loader : Loader} {slot : Slot}

/-- A slot has a template exactly if it has a captured text, and the template is that of the
text. -/
theorem find?_cases (h : Mirrors c s) (slot : Slot) :
    (c.find? slot = none ∧ s.text? slot = none) ∨ ∃ kept text, c.find? slot = some kept ∧
      s.text? slot = some text ∧ Template.compile text slot.name = .ok kept.template := by
  have hfound := h.found slot
  cases hkept : c.find? slot with
  | none =>
    cases htext : s.text? slot with
    | none => exact .inl ⟨rfl, rfl⟩
    | some text => simp [hkept, htext] at hfound
  | some kept =>
    cases htext : s.text? slot with
    | none => simp [hkept, htext] at hfound
    | some text =>
      simp only [hkept, htext, Option.map_some, Option.some.injEq] at hfound
      exact .inr ⟨kept, text, rfl, rfl, hfound.symm⟩

/-- A kept template stays in step with the captured text that it was compiled from. -/
theorem keep (h : Mirrors c s) {t : Template} {text : String} (hfind : c.find? slot = none)
    (ht : Template.compile text slot.name = .ok t) :
    Mirrors (c.keep slot t) (s.capture slot text) := by
  refine ⟨h.idle, h.quiet, fun other => ?_, ?_⟩
  · rw [Cache.find?_keep, Snapshot.text?_capture]
    by_cases hother : other = slot
    · subst hother
      simp [ht]
    · rw [if_neg hother, if_neg hother]
      exact h.found other
  · have hsize := h.size
    unfold Cache.size at hsize ⊢
    rw [Snapshot.size_capture, ← hsize]
    rfl

/-- Asking a cache and asking its snapshot come to the same. -/
theorem get (h : Mirrors c s) (hcalls : loader.calls = []) (htext : loader.text = s.current)
    (slot : Slot) :
    (c.get loader slot).1.map Kept.template = (s.ask slot).1 ∧
      Notice.warnings (c.get loader slot).2.notices = [] ∧
      Mirrors (c.get loader slot).2.takeNotices.2 (s.ask slot).2 := by
  rcases h.find?_cases slot with ⟨hfind, hnone⟩ | ⟨kept, text, hfind, hsome, ht⟩
  · have hcompiling : slot ∉ c.compiling := by simp [h.idle]
    obtain ⟨told, htold, hget⟩ := Cache.get_of_find?_none hcalls hfind hcompiling
    have hmade : loader.made slot =
        s.current slot >>= fun text => (Template.compile text slot.name).mapError .malformed := by
      rw [Loader.made, htext]
    have hwarnings : Notice.warnings (c.notices ++ told) = [] := by
      rw [Notice.warnings_append, h.quiet, htold]; rfl
    rw [hget, hmade]
    unfold Snapshot.ask
    rw [hnone]
    -- of the three ways in which a miss ends only the last one changes anything
    cases s.current slot with
    | error fault => exact ⟨rfl, hwarnings, h.idle, rfl, h.found, h.size⟩
    | ok text =>
      dsimp only [bind, Except.bind]
      cases ht : Template.compile text slot.name with
      | error e => exact ⟨rfl, hwarnings, h.idle, rfl, h.found, h.size⟩
      | ok t =>
        have hkeep := h.keep hfind ht
        exact ⟨rfl, hwarnings, hkeep.idle, rfl, hkeep.found, hkeep.size⟩
  · rw [Cache.get_of_find? hfind]
    unfold Snapshot.ask
    rw [hsome]
    refine ⟨by simp only [ht]; rfl, by rw [h.quiet]; rfl, h.idle, rfl, h.found, h.size⟩

end Mirrors

/-! ## Included templates -/

section
variable {texts : List (String × String)} {strict : Bool} (d : Disk)

/-- The texts of a snapshot's source are those of a source in memory. -/
def Snapshot.SourceIs (s : Snapshot) (texts : List (String × String)) : Prop :=
  ∀ name, s.source name = texts.lookup name

/-- The loader of a source in memory gives its texts as they are now. -/
theorem text_loader {s : Snapshot} (h : s.SourceIs texts) :
    ((Source.memory texts).loader d).text = s.current := by
  funext slot
  obtain ⟨space, key⟩ := slot
  cases space with
  | inline => rfl
  | named =>
    have hkey := h key
    simp only [Loader.text, Source.loader, Source.load, Snapshot.current, hkey]
    cases texts.lookup key <;> rfl

/-- What both libraries keep during a rendering: the snapshot stays the cache's, the source and the
lasting texts stay as they were at the start, and so do the templates that were there. -/
structure Rendering (texts : List (String × String)) (c₀ : Cache) (s₀ : Snapshot) (c : Cache)
    (s : Snapshot) : Prop where
  mirrors : Mirrors c s
  source : s.SourceIs texts
  lasting : s.lasting = s₀.lasting
  stays : ∀ slot kept, c₀.find? slot = some kept → c.find? slot = some kept

/-- A template that can be reached by name while the lasting texts are those of a snapshot. -/
def Snapshot.Reaches (s : Snapshot) (name : String) (t : Template) : Prop :=
  ∃ text, s.lasting name = some text ∧ Template.compile text name = .ok t

/-- A rendering stays what it is when an included template is asked for. -/
theorem Rendering.get {c₀ c : Cache} {s₀ s : Snapshot} (h : Rendering texts c₀ s₀ c s)
    (slot : Slot) :
    Rendering texts c₀ s₀ (c.get ((Source.memory texts).loader d) slot).2.takeNotices.2
      (s.ask slot).2 := by
  obtain ⟨-, -, hmirrors⟩ := h.mirrors.get rfl (text_loader d h.source) slot
  have hcompiling : slot ∉ c.compiling := by simp [h.mirrors.idle]
  refine ⟨hmirrors, ?_, ?_, ?_⟩
  · rw [Snapshot.SourceIs, s.source_ask]
    exact h.source
  · rw [s.lasting_ask, h.lasting]
  · intro other kept hkept
    exact Cache.find?_get_of_find? rfl hcompiling (h.stays other kept hkept)

/-- Both engines find the same for an included name. -/
theorem Rendering.finder {c₀ c : Cache} {s₀ s : Snapshot} (h : Rendering texts c₀ s₀ c s)
    (name : String) :
    (Engine.finder (.memory texts) strict d name c).template =
        (Snapshot.finder strict name s).template ∧
      Notice.warnings (Engine.finder (.memory texts) strict d name c).notices =
        Notice.warnings (Snapshot.finder strict name s).notices ∧
      Rendering texts c₀ s₀ (Engine.finder (.memory texts) strict d name c).library
        (Snapshot.finder strict name s).library := by
  obtain ⟨hresult, hwarnings, -⟩ := h.mirrors.get rfl (text_loader d h.source) ⟨.named, name⟩
  have hafter := h.get d ⟨.named, name⟩
  unfold Engine.finder Snapshot.finder
  rcases hget : c.get ((Source.memory texts).loader d) ⟨.named, name⟩ with ⟨result, c'⟩
  rcases hask : s.ask ⟨.named, name⟩ with ⟨result', s'⟩
  rw [hget, hask] at hresult hafter
  rw [hget] at hwarnings
  simp only at hresult hwarnings hafter
  subst hresult
  cases result with
  | ok kept => exact ⟨rfl, hwarnings, hafter⟩
  | error fault =>
    cases fault with
    | unavailable key reason =>
      cases strict with
      | true => exact ⟨rfl, hwarnings, hafter⟩
      | false =>
        -- a missing template is let pass and told, but not remembered
        refine ⟨rfl, ?_, hafter⟩
        show Notice.warnings (c'.notices ++ [.missingInclusion name]) = _
        rw [Notice.warnings_append, hwarnings]
        rfl
    | _ => exact ⟨rfl, hwarnings, hafter⟩

/-- What is found was reachable from the start. -/
theorem Rendering.reaches {c₀ c : Cache} {s₀ s : Snapshot} (h : Rendering texts c₀ s₀ c s)
    {name : String} {t : Template}
    (hfound : (Snapshot.finder strict name s).template = .ok (some t)) : s₀.Reaches name t := by
  have hask : (s.ask ⟨.named, name⟩).1 = .ok t := by
    unfold Snapshot.finder at hfound
    rcases hask : s.ask ⟨.named, name⟩ with ⟨result, s'⟩
    rw [hask] at hfound
    cases result with
    | ok u => exact congrArg Except.ok (Option.some.inj (Except.ok.inj hfound))
    | error fault =>
      cases fault with
      | unavailable key reason => cases strict <;> cases hfound
      | _ => cases hfound
  obtain ⟨text, htext, ht⟩ := Snapshot.ask_named hask
  exact ⟨text, by rw [← h.lasting, htext], ht⟩

/-- Finding a partial in the cache and in the snapshot gives the same template and keeps the two in
step. -/
theorem agree_finder {c₀ : Cache} {s₀ : Snapshot} {Asked : String → Prop} {Known : Template → Prop}
    (hknown : ∀ name t, Asked name → s₀.Reaches name t → Known t) :
    Walk.Agree (Rendering texts c₀ s₀) Asked Known (Engine.finder (.memory texts) strict d)
      (Snapshot.finder strict) where
  template := fun _ h => (h.finder d _).1
  warnings := fun _ h => (h.finder d _).2.1
  library := fun _ h => (h.finder d _).2.2
  known := fun hname h ht => hknown _ _ hname (h.reaches ((h.finder d _).1 ▸ ht))

/-! ## How deep a rendering goes -/

/-- The key of the template that a name reaches. -/
def Snapshot.keyOf (s : Snapshot) (name : String) : String :=
  match s.lasting name with
  | none => ""
  | some text =>
    match Template.compile text name with
    | .error _ => ""
    | .ok t => t.key

theorem Snapshot.Reaches.keyOf_eq {s : Snapshot} {name : String} {t : Template}
    (h : s.Reaches name t) : s.keyOf name = t.key := by
  obtain ⟨text, htext, ht⟩ := h
  simp only [keyOf, htext, ht]

/-- All names that a rendering may come to: those in the template, in the templates of the cache and
in the texts of the source. -/
def reachableNames (texts : List (String × String)) (c : Cache) (t : Template) : List String :=
  Node.allInclusions t.nodes ++
    (c.entries.flatMap fun entry => Node.allInclusions entry.2.template.nodes) ++
    texts.flatMap fun entry => Template.namesIncluded entry.2

/-- The inclusions of a compiled text are those named in it. -/
theorem nodes_of_compile {text name : String} {t : Template}
    (h : Template.compile text name = .ok t) :
    Node.allInclusions t.nodes = Template.namesIncluded text := by
  unfold Template.compile at h
  unfold Template.namesIncluded
  split at h
  · cases h
  · next nodes hnodes =>
    obtain rfl := Except.ok.inj h
    rw [hnodes]

/-- A template that is reached by name includes only names that a rendering may come to. -/
theorem Snapshot.Reaches.includes {c : Cache} {s : Snapshot} (hmirrors : Mirrors c s)
    (hsource : s.SourceIs texts) {name : String} {t : Template} (h : s.Reaches name t)
    (root : Template) : ∀ n ∈ Node.allInclusions t.nodes, n ∈ reachableNames texts c root := by
  obtain ⟨text, htext, ht⟩ := h
  intro n hn
  unfold reachableNames
  rw [List.mem_append, List.mem_append]
  rcases Option.or_eq_some_iff.1 htext with hcaptured | ⟨-, hnow⟩
  · -- a captured text has its template in the cache
    refine .inl (.inr ?_)
    rcases hmirrors.find?_cases ⟨.named, name⟩ with ⟨-, hnone⟩ | ⟨kept, text', hfind, hsome, hkept⟩
    · rw [hnone] at hcaptured
      cases hcaptured
    · obtain rfl : text' = text := Option.some.inj (hsome.symm.trans hcaptured)
      obtain rfl : kept.template = t := Except.ok.inj (hkept.symm.trans ht)
      exact List.mem_flatMap.2 ⟨_, mem_of_lookup hfind, hn⟩
  · rw [hsource name] at hnow
    rw [nodes_of_compile ht] at hn
    exact .inr (List.mem_flatMap.2 ⟨_, mem_of_lookup hnow, hn⟩)

theorem length_flatMap_le {α β : Type} {f : α → List β} {size : α → Nat}
    (h : ∀ a, (f a).length ≤ size a) (l : List α) :
    (l.flatMap f).length ≤ l.foldr (fun a total => size a + total) 0 := by
  induction l with
  | nil => exact Nat.le_refl 0
  | cons a l ih =>
    have ha := h a
    rw [List.flatMap_cons, List.length_append, List.foldr_cons]
    omega

/-- The depth that an engine allows covers the template and all names it may come to. -/
theorem length_reachableNames_lt (texts : List (String × String)) (strict : Bool) (c : Cache)
    (t : Template) :
    (reachableNames texts c t).length < Engine.depthBound ⟨.memory texts, strict, c⟩ d t := by
  have hkept : (c.entries.flatMap fun entry => Node.allInclusions entry.2.template.nodes).length ≤
      c.entries.foldr
        (fun entry total => (Node.allInclusions entry.2.template.nodes).length + total) 0 :=
    length_flatMap_le (fun _ => Nat.le_refl _) c.entries
  have htext : ∀ entry : String × String,
      (Template.namesIncluded entry.2).length ≤ entry.2.length :=
    fun entry => Template.length_namesIncluded_le entry.2
  have htexts := length_flatMap_le htext texts
  simp only [reachableNames, List.length_append, Engine.depthBound, Source.volume]
  omega

/-! ## Renderings of the two engines -/

/-- A rendering gives the same in both engines, however deep the engine of snapshots may go as long
as that is no less than the other may. -/
theorem render_eq {c : Cache} {s : Snapshot} (hmirrors : Mirrors c s) (hsource : s.SourceIs texts)
    (t : Template) (data : Value) (sink : Sink) {m n : Nat}
    (hm : (reachableNames texts c t).length < m) (hn : (reachableNames texts c t).length < n) :
    (render (Engine.finder (.memory texts) strict d) m t data sink c).1 =
        (render (Snapshot.finder strict) n t data sink s).1 ∧
      (render (Engine.finder (.memory texts) strict d) m t data sink c).2.Matches
        (Rendering texts c s) (render (Snapshot.finder strict) n t data sink s).2 := by
  have hstart : Rendering texts c s c s := ⟨hmirrors, hsource, rfl, fun _ _ h => h⟩
  -- besides the template itself, a rendering only comes to those that its names reach
  let Known (u : Template) : Prop := u = t ∨ ∃ name ∈ reachableNames texts c t, s.Reaches name u
  have hagree : Walk.Agree (Rendering texts c s) (· ∈ reachableNames texts c t) Known
      (Engine.finder (.memory texts) strict d) (Snapshot.finder strict) :=
    agree_finder d fun name u hname hu => .inr ⟨name, hname, hu⟩
  have hkey : ∀ u, Known u → u.key ∈ t.key :: (reachableNames texts c t).map s.keyOf := by
    rintro u (rfl | ⟨name, hname, hu⟩)
    · exact List.mem_cons_self
    · exact List.mem_cons_of_mem _ (List.mem_map.2 ⟨name, hname, hu.keyOf_eq⟩)
  have hasked : ∀ u, Known u →
      ∀ name ∈ Node.allInclusions u.nodes, name ∈ reachableNames texts c t := by
    rintro u (rfl | ⟨name, hname, hu⟩)
    · intro name hname
      exact List.mem_append_left _ (List.mem_append_left _ hname)
    · exact hu.includes hmirrors hsource t
  have hlength : (t.key :: (reachableNames texts c t).map s.keyOf).length =
      (reachableNames texts c t).length + 1 := by simp
  exact render_matches hagree hkey hasked (by omega) (by omega) (.inl rfl) data sink hstart

end

end Mustache
