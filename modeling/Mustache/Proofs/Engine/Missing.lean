import Mustache.Proofs.Engine.Faithful

/-!
# Missing templates as empty ones

Where missing templates are allowed, including one renders nothing, as including one with an empty
text does. So a rendering comes to the same as one by a strict engine whose source has an empty text
for every missing name. The one difference is that each missing template that is reached is told.

The two renderings differ in what they walk: the strict one enters the empty template, and that
fails where the template is being rendered already. This cannot be where no name that may be reached
is the key of the template that is rendered: the other templates being rendered have texts.
-/

namespace Mustache

/-- Texts with an empty one for each of some names that have none. -/
def withEmpty (texts : List (String × String)) (names : List String) : List (String × String) :=
  texts ++ names.map fun name => (name, "")

/-- What is told of the missing names among some names, in order. -/
def missingWarnings (texts : List (String × String)) (names : List String) : List String :=
  (names.filter fun name => (texts.lookup name).isNone).map fun name =>
    (Notice.missingInclusion name).message

/-- The names that a rendering comes to, in order. -/
def Engine.reached (e : Engine) (d : Disk) (t : Template) (data : Value) (sink : Sink) :
    List String :=
  (Mustache.render (finder e.source e.strict d).recording (e.depthBound d t) t data sink
    (e.cache, [])).2.library.2

section
variable {texts : List (String × String)} {missing : List String} {d : Disk} {name : String}
  {failure? : Option Failure}

/-- Texts that are there stay what they are. -/
theorem lookup_withEmpty_of_some {text : String} (h : texts.lookup name = some text) :
    (withEmpty texts missing).lookup name = some text := by
  rw [withEmpty, List.lookup_append, h, Option.some_or]

theorem lookup_withEmpty_of_none (h : texts.lookup name = none) (hmem : name ∈ missing) :
    (withEmpty texts missing).lookup name = some "" := by
  rw [withEmpty, List.lookup_append, h, Option.none_or]
  induction missing with
  | nil => cases hmem
  | cons first rest ih =>
    rw [List.map_cons, lookup_cons_eq_ite]
    by_cases heq : name = first
    · rw [if_pos heq]
    · rw [if_neg heq]
      exact ih ((List.mem_cons.1 hmem).resolve_left heq)

theorem missingWarnings_append (texts : List (String × String)) (names more : List String) :
    missingWarnings texts (names ++ more) =
      missingWarnings texts names ++ missingWarnings texts more := by
  rw [missingWarnings, List.filter_append, List.map_append]
  rfl

theorem parse_empty : Template.parse "" = .ok [] := by with_unfolding_all rfl

/-- An empty text is a template that writes nothing. -/
theorem compile_empty (h : name ≠ "") : Template.compile "" name = .ok ⟨name, []⟩ := by
  rw [Template.compile_of_parse parse_empty, if_neg h]

/-- The lenient rendering, which writes down the names that it comes to, beside the strict one;
flushing their sinks fails as it would at the start. -/
structure Beside (texts : List (String × String)) (missing : List String) (d : Disk)
    (failure? : Option Failure) (p : Progress (Cache × List String)) (q : Progress Cache) :
    Prop where
  sink : p.sink = q.sink
  flush : q.sink.flushFailure = failure?
  memory : p.memory = q.memory
  warnings : Notice.warnings p.notices = missingWarnings texts p.library.2
  quiet : Notice.warnings q.notices = []
  lenient : p.library.1.Faithful ((Source.memory texts).loader d)
  strict : q.library.Faithful ((Source.memory (withEmpty texts missing)).loader d)

/-- The two stay beside each other while sink and memory change alike. -/
theorem couples_beside : Progress.Couples (Beside texts missing d failure?) where
  sink := Beside.sink
  memory := Beside.memory
  setSink h _ hflush := { h with sink := rfl, flush := hflush.trans h.flush }
  setMemory h _ := { h with memory := rfl }

theorem warnings_including (name : String) (depth : Nat) :
    Notice.warnings [.including name depth] = [] := rfl

namespace Walk

variable {enter : Scope → Template → Walk (Cache × List String) Unit}
  {enter' : Scope → Template → Walk Cache Unit}

/-- That a partial is entered is told on both sides, and it is no warning. -/
theorem inStep_tell_including (name : String) (depth : Nat) :
    InStep (Beside texts missing d failure?) (tell (.including name depth))
      (tell (.including name depth)) := by
  intro p q hpq
  refine ⟨rfl, { hpq with warnings := ?_, quiet := ?_ }⟩
  · show Notice.warnings (p.notices ++ [.including name depth]) = _
    rw [Notice.warnings_append, hpq.warnings, warnings_including, List.append_nil]
    rfl
  · show Notice.warnings (q.notices ++ [.including name depth]) = _
    rw [Notice.warnings_append, hpq.quiet, warnings_including, List.append_nil]

/-- A name that has a text is found by both. -/
theorem inStep_present {text : String} (hname : texts.lookup name = some text)
    (henter : ∀ t, Template.compile text name = .ok t → ∀ scope,
      InStep (Beside texts missing d failure?) (enter scope t) (enter' scope t)) (scope : Scope) :
    InStep (Beside texts missing d failure?)
      (node (Engine.finder (.memory texts) false d).recording enter scope (.inclusion name))
      (node (Engine.finder (.memory (withEmpty texts missing)) true d) enter' scope
        (.inclusion name)) := by
  -- a name that has a text brings no warning
  have hasked : missingWarnings texts [name] = [] := by
    simp only [missingWarnings, List.filter_cons, hname, Option.isNone_some, Bool.false_eq_true,
      if_false, List.filter_nil, List.map_nil]
  -- both sides find the template of that text
  have hfind : InStep (Beside texts missing d failure?)
      (find (Engine.finder (.memory texts) false d).recording name)
      (find (Engine.finder (.memory (withEmpty texts missing)) true d) name) := by
    intro p q hpq
    obtain ⟨ht, hwarnings, hafter⟩ := hpq.lenient.finder_of_lookup_some false hname
    obtain ⟨ht', hwarnings', hafter'⟩ := hpq.strict.finder_of_lookup_some true
      (lookup_withEmpty_of_some hname)
    refine ⟨ht.trans ht'.symm, hpq.sink, hpq.flush, hpq.memory, ?_, ?_, hafter, hafter'⟩
    · show Notice.warnings (p.notices ++ _) = missingWarnings texts (p.library.2 ++ [name])
      rw [Notice.warnings_append, missingWarnings_append, hasked, hpq.warnings]
      exact congrArg (_ ++ ·) hwarnings
    · show Notice.warnings (q.notices ++ _) = []
      rw [Notice.warnings_append, hpq.quiet]
      exact hwarnings'
  refine InStep.bind_of hfind
    (fun found => ∀ t, found = some t → Template.compile text name = .ok t) ?_ ?_
  -- what is found was compiled, so entering it goes in step
  · rintro p q _ hpq hfound t rfl
    obtain ⟨ht, -, -⟩ := hpq.lenient.finder_of_lookup_some false hname
    obtain ⟨u, hu, heq⟩ := map_eq_ok_iff.1 (ht.symm.trans hfound)
    obtain rfl := Option.some.inj heq
    exact mapError_eq_ok_iff.1 hu
  · intro found hfound
    cases found with
    | none => exact inStep_pure ()
    | some t => exact (inStep_tell_including name _).bind fun _ => henter t (hfound t rfl) scope

/-- A name that has no text is passed over by the one, and found and entered by the other. -/
theorem inStep_missing (hname : texts.lookup name = none) (hmem : name ∈ missing) (hne : name ≠ "")
    (henter : ∀ scope, enter' scope ⟨name, []⟩ = pure ()) (scope : Scope) :
    InStep (Beside texts missing d failure?)
      (node (Engine.finder (.memory texts) false d).recording enter scope (.inclusion name))
      (node (Engine.finder (.memory (withEmpty texts missing)) true d) enter' scope
        (.inclusion name)) := by
  intro p q hpq
  obtain ⟨ht, hwarnings, hafter⟩ := hpq.lenient.finder_of_lookup_none false hname
  obtain ⟨ht', hwarnings', hafter'⟩ := hpq.strict.finder_of_lookup_some true
    (lookup_withEmpty_of_none hname hmem)
  rw [compile_empty hne] at ht'
  -- without a template the lenient side enters nothing,
  have hleft : node (Engine.finder (.memory texts) false d).recording enter scope
      (.inclusion name) p =
        (.ok (), (find (Engine.finder (.memory texts) false d).recording name p).2) := by
    have hfind : find (Engine.finder (.memory texts) false d).recording name p =
        (.ok none, (find (Engine.finder (.memory texts) false d).recording name p).2) :=
      Prod.ext ht rfl
    rw [node, bind_apply, hfind]
    rfl
  -- and the strict one enters the empty one, which does nothing but tell of it
  have hright : node (Engine.finder (.memory (withEmpty texts missing)) true d) enter' scope
      (.inclusion name) q = tell (.including name scope.depth)
        (find (Engine.finder (.memory (withEmpty texts missing)) true d) name q).2 := by
    have hfind : find (Engine.finder (.memory (withEmpty texts missing)) true d) name q =
        (.ok (some ⟨name, []⟩),
          (find (Engine.finder (.memory (withEmpty texts missing)) true d) name q).2) :=
      Prod.ext ht' rfl
    rw [node, bind_apply, hfind]
    dsimp only
    rw [bind_apply, henter]
    rfl
  rw [hleft, hright]
  refine ⟨rfl, hpq.sink, hpq.flush, hpq.memory, ?_, ?_, hafter, hafter'⟩
  -- the name that is asked for brings the one warning
  · show Notice.warnings (p.notices ++ _) = missingWarnings texts (p.library.2 ++ [name])
    rw [Notice.warnings_append, missingWarnings_append, hpq.warnings]
    have hasked : missingWarnings texts [name] = [(Notice.missingInclusion name).message] := by
      simp only [missingWarnings, List.filter_cons, hname, Option.isNone_none, if_true,
        List.filter_nil, List.map_cons, List.map_nil]
    rw [hasked]
    exact congrArg (_ ++ ·) hwarnings
  · show Notice.warnings ((q.notices ++ _) ++ [.including name scope.depth]) = []
    rw [Notice.warnings_append, Notice.warnings_append, hpq.quiet, warnings_including,
      List.append_nil]
    exact hwarnings'

variable (d failure?) in
/-- The walk over a template, where the templates that are being walked are the one that is rendered
and others that have texts. -/
theorem inStep_template {t₀ : Template} {text₀ key₀ : String}
    (ht₀ : Template.compile text₀ key₀ = .ok t₀) (hroot : ¬t₀.Includes texts t₀.key)
    (hmissing : ∀ name, t₀.Includes texts name → texts.lookup name = none → name ∈ missing)
    {m n : Nat} {active : List String} (hchain : Chain (t₀.key :: t₀.namesWith texts) active)
    (hactive : ∀ key ∈ active, key = t₀.key ∨ (texts.lookup key).isSome)
    (hm : (t₀.key :: t₀.namesWith texts).length ≤ m + active.length)
    (hn : (t₀.key :: t₀.namesWith texts).length ≤ n + active.length) (scope : Scope) (u : Template)
    (hu : t₀.Meets texts u) :
    InStep (Beside texts missing d failure?)
      (template (Engine.finder (.memory texts) false d).recording m active scope u)
      (template (Engine.finder (.memory (withEmpty texts missing)) true d) n active scope u) := by
  have hkey := hu.key_mem ht₀
  -- the two depths differ, but each is enough, since the keys being walked are different ones
  induction m generalizing n active scope u with
  | zero =>
    unfold template
    by_cases hmem : u.key ∈ active
    · rw [if_pos hmem, if_pos hmem]
      exact inStep_throw _
    · have hlt := hchain.length_lt hkey hmem
      omega
  | succ m ih =>
    unfold template
    by_cases hmem : u.key ∈ active
    · rw [if_pos hmem, if_pos hmem]
      exact inStep_throw _
    · have hlt := hchain.length_lt hkey hmem
      obtain ⟨n, rfl⟩ : ∃ k, n = k + 1 := ⟨n - 1, by omega⟩
      rw [if_neg hmem, if_neg hmem]
      have hchain' := hchain.enter hkey hmem
      have hactive' : ∀ key ∈ active ++ [u.key], key = t₀.key ∨ (texts.lookup key).isSome := by
        intro key hkey'
        rcases List.mem_append.1 hkey' with hold | hnew
        · exact hactive key hold
        · rw [List.mem_singleton.1 hnew]
          exact (hu.key ht₀).imp_right And.right
      refine (congruence_inStep couples_beside).nodes _ _ _ _ u.nodes (fun name hname scope => ?_)
        scope
      have hincludes := hu.includes hname
      cases hlookup : texts.lookup name with
      | some text =>
        refine inStep_present hlookup (fun t ht scope => ?_) scope
        have hmeets : t₀.Meets texts t := .inr ⟨name, text, hincludes, hlookup, ht⟩
        exact ih hchain' hactive' (Chain.depth_enter hm u.key) (Chain.depth_enter hn u.key) scope t
          hmeets (hmeets.key_mem ht₀)
      | none =>
        refine inStep_missing hlookup (hmissing name hincludes hlookup) (hincludes.ne_empty ht₀)
          (fun scope => ?_) scope
        -- the empty template is not being walked, and there is depth left for it
        have hfresh : name ∉ active ++ [u.key] := by
          intro hmem
          rcases hactive' name hmem with rfl | hsome
          · exact hroot hincludes
          · rw [hlookup] at hsome
            cases hsome
        have hlt := hchain'.length_lt (List.mem_cons_of_mem _ hincludes.mem_namesWith) hfresh
        have hdepth := Chain.depth_enter hn u.key
        obtain ⟨n, rfl⟩ : ∃ k, n = k + 1 := ⟨n - 1, by omega⟩
        rw [template, if_neg hfresh, nodes]

end Walk

end

namespace Engine

variable {texts : List (String × String)} {missing : List String} {d : Disk}

/-- The empty texts include nothing. -/
theorem namesWith_withEmpty (t : Template) :
    t.namesWith (withEmpty texts missing) = t.namesWith texts := by
  have hmissing : (missing.map fun name => (name, "")).flatMap
      (fun entry => Template.namesIncluded entry.2) = [] := by
    refine List.flatMap_eq_nil_iff.2 fun entry hentry => ?_
    obtain ⟨name, -, rfl⟩ := List.mem_map.1 hentry
    exact Template.namesIncluded_of_parse parse_empty
  rw [Template.namesWith, withEmpty, List.flatMap_append, hmissing, List.append_nil]
  rfl

section
variable {text key : String} {t : Template} (ht : Template.compile text key = .ok t)
  (hroot : ¬t.Includes texts t.key)
  (hmissing : ∀ name, t.Includes texts name → texts.lookup name = none → name ∈ missing)
  {lenient strict : Engine} (hlenient : lenient.KeepsTo d (.memory texts) false)
  (hstrict : strict.KeepsTo d (.memory (withEmpty texts missing)) true)
include ht hroot hmissing hlenient hstrict

/-- The two renderings into a sink. The strict one has nothing to warn of but that flushing
fails. -/
theorem render_beside (data : Value) (sink : Sink) :
    (lenient.render d t data sink).1 = (strict.render d t data sink).1 ∧
    (lenient.render d t data sink).2.1 = (strict.render d t data sink).2.1 ∧
    Notice.warnings (lenient.render d t data sink).2.2.1 =
      missingWarnings texts (lenient.reached d t data sink) ++
        Notice.warnings (strict.render d t data sink).2.2.1 ∧
    (sink.flushFailure = none → Notice.warnings (strict.render d t data sink).2.2.1 = []) := by
  obtain ⟨source, isStrict, c⟩ := lenient
  obtain ⟨rfl, rfl, hc⟩ := hlenient
  obtain ⟨source, isStrict, c'⟩ := strict
  obtain ⟨rfl, rfl, hc'⟩ := hstrict
  -- neither engine runs out of depth, for both know the same keys
  have hm : (t.key :: t.namesWith texts).length ≤
      depthBound ⟨.memory texts, false, c⟩ d t + 0 := t.length_namesWith_lt
  have hn : (t.key :: t.namesWith texts).length ≤
      depthBound ⟨.memory (withEmpty texts missing), true, c'⟩ d t + 0 := by
    have hlt := (t.length_namesWith_lt : (t.namesWith (withEmpty texts missing)).length <
      depthBound ⟨.memory (withEmpty texts missing), true, c'⟩ d t)
    rwa [namesWith_withEmpty] at hlt
  have hwalk := Walk.inStep_template d sink.flushFailure ht hroot hmissing (Chain.nil _) nofun hm hn
    (.ofRoot data) t (.inl rfl)
  have hstart : Beside texts missing d sink.flushFailure ⟨sink, {}, [], (c, [])⟩
      ⟨sink, {}, [], c'⟩ := ⟨rfl, rfl, rfl, rfl, rfl, hc, hc'⟩
  obtain ⟨hend, p, q, told, hpq, htold, hp, hq⟩ := hwalk.render couples_beside hstart
  -- the side that writes names down renders as the lenient engine does
  obtain ⟨hsame, hrecords⟩ := render_recording (finder (.memory texts) false d)
    (depthBound ⟨.memory texts, false, c⟩ d t) t data sink c []
  rw [hp] at hrecords
  have hreached : reached ⟨.memory texts, false, c⟩ d t data sink = p.library.2 := by
    rw [reached, hp]
  rw [hreached, render_eq_run, render_eq_run]
  dsimp only
  rw [← hrecords.sink, ← hrecords.notices, hq]
  refine ⟨hsame.symm.trans hend, hpq.sink, ?_, fun hflush => ?_⟩
  · rw [Notice.warnings_append, Notice.warnings_append, hpq.warnings, hpq.quiet, List.nil_append]
  · rw [htold (hpq.flush.trans hflush), List.append_nil, hpq.quiet]

end

end Engine

end Mustache
