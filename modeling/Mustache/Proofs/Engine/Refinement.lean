import Mustache.Proofs.Engine.Mirror

/-!
# The engine behaves like one of snapshots

The cache of an engine and the state of an engine of snapshots start as each other's mirrors, and
every request keeps them so: those that compile, those that fail, and those that render and compile
included templates on the way. So all answers are the same. That a key has the same template until
the cache is cleared comes from the cache alone, which never replaces what it has.
-/

namespace Mustache

/-! ## Sessions -/

/-- A text that is put is found under its name, and every other name finds what it found. -/
theorem lookup_put (name text other : String) (texts : List (String × String)) :
    (Source.put name text texts).lookup other =
      if other = name then some text else texts.lookup other := by
  induction texts with
  | nil => exact lookup_cons_eq_ite name text [] other
  | cons entry rest ih =>
    obtain ⟨key, old⟩ := entry
    unfold Source.put
    by_cases hkey : key = name
    · rw [if_pos hkey, hkey, lookup_cons_eq_ite, lookup_cons_eq_ite]
      split <;> rfl
    · rw [if_neg hkey, lookup_cons_eq_ite, lookup_cons_eq_ite, ih]
      by_cases h : other = key
      · rw [if_pos h, if_neg (h ▸ hkey), if_pos h]
      · rw [if_neg h, if_neg h]

/-- Two sessions that have come to the same point: the snapshot is that of the cache, the sources
have the same texts, and the same templates have been handed out. -/
structure Session.Matches (strict : Bool) (s : Session Engine Kept)
    (s' : Session Snapshot Template) (texts : List (String × String)) : Prop where
  source : s.state.source = .memory texts
  strict : s.state.strict = strict
  mirrors : Mirrors s.state.cache s'.state
  texts : s'.state.SourceIs texts
  obtained : s.obtained.map Kept.template = s'.obtained

/-- The same answer and the same warnings, in sessions that have come to the same point: a template
that the first one hands out counts as the one without its serial number. -/
structure Session.Alike (strict : Bool) (now : (Answer Kept × List String) × Session Engine Kept)
    (now' : (Answer Template × List String) × Session Snapshot Template) : Prop where
  answer : now.1.1.map Kept.template = now'.1.1
  warnings : now.1.2 = now'.1.2
  matches_after : ∃ texts, Session.Matches strict now.2 now'.2 texts

namespace Session.Matches

variable (d : Disk) {texts : List (String × String)} {strict : Bool}
  {s : Session Engine Kept} {s' : Session Snapshot Template}

/-- The template obtained at some place. -/
theorem getElem?_obtained (h : Session.Matches strict s s' texts) (place : Nat) :
    s'.obtained[place]? = s.obtained[place]?.map Kept.template := by
  rw [← h.obtained, List.getElem?_map]

/-- Both engines give the same template for a slot, or fail in the same way. -/
theorem ofSlot (h : Session.Matches strict s s' texts) (depth : Nat) (slot : Slot) :
    Session.Alike strict ((Engine.service d).step s (.ofSlot slot))
      ((Snapshot.service strict depth).step s' (.ofSlot slot)) := by
  obtain ⟨⟨source, strict₀, c⟩, obtained⟩ := s
  obtain ⟨hsource, hstrict, hmirrors, htexts, hobtained⟩ := h
  dsimp only at hsource hstrict hmirrors hobtained
  subst hsource hstrict
  obtain ⟨hresult, hwarnings, hafter⟩ := hmirrors.get rfl (text_loader d htexts) slot
  have hkept : (s'.state.ask slot).2.SourceIs texts := by
    rw [Snapshot.SourceIs, Snapshot.source_ask]
    exact htexts
  have hhanded : (obtained ++ (c.get ((Source.memory texts).loader d) slot).1.toOption.toList).map
      Kept.template = s'.obtained ++ (s'.state.ask slot).1.toOption.toList := by
    rw [List.map_append, hobtained, ← hresult]
    cases (c.get ((Source.memory texts).loader d) slot).1 <;> rfl
  obtain ⟨space, key⟩ := slot
  cases space with
  | inline =>
    exact ⟨congrArg Answer.template hresult, hwarnings, texts, rfl, rfl, hafter, hkept, hhanded⟩
  | named =>
    exact ⟨congrArg Answer.template hresult, hwarnings, texts, rfl, rfl, hafter, hkept, hhanded⟩

/-- A rendering gives the same in both engines, and keeps their states as they are in one. -/
theorem rendering (h : Session.Matches strict s s' texts) (t : Template) (data : Value)
    (sink : Sink) {depth : Nat} (hdepth : s.state.depthBound d t ≤ depth) :
    let now := Mustache.render (Engine.finder s.state.source s.state.strict d)
      (s.state.depthBound d t) t data sink s.state.cache
    let now' := Mustache.render (Snapshot.finder strict) depth t data sink s'.state
    now.1 = now'.1 ∧ now.2.Matches (Rendering texts s.state.cache s'.state) now'.2 := by
  obtain ⟨⟨source, strict₀, c⟩, obtained⟩ := s
  obtain ⟨hsource, hstrict, hmirrors, htexts, -⟩ := h
  dsimp only at hsource hstrict hmirrors
  subst hsource hstrict
  have hlt := length_reachableNames_lt d texts strict₀ c t
  exact render_eq d hmirrors htexts t data sink hlt (Nat.lt_of_lt_of_le hlt hdepth)

/-- Both engines render a template into a sink alike. -/
theorem renderInto (h : Session.Matches strict s s' texts) {place : Nat} {kept : Kept}
    (hplace : s.obtained[place]? = some kept) (data : Value) (sink : Sink) {depth : Nat}
    (hdepth : s.state.depthBound d kept.template ≤ depth) :
    Session.Alike strict ((Engine.service d).step s (.renderInto place data sink))
      ((Snapshot.service strict depth).step s' (.renderInto place data sink)) := by
  have hplace' := h.getElem?_obtained place
  rw [hplace] at hplace'
  obtain ⟨hresult, hafter⟩ := h.rendering d kept.template data sink hdepth
  simp only [Service.step, hplace, hplace', Option.map_some]
  exact ⟨congr (congrArg Answer.written hresult) hafter.sink, hafter.warnings, texts, h.source,
    h.strict, hafter.library.mirrors, hafter.library.source, h.obtained⟩

/-- Both engines render a template to a text alike. -/
theorem render (h : Session.Matches strict s s' texts) {place : Nat} {kept : Kept}
    (hplace : s.obtained[place]? = some kept) (data : Value) {depth : Nat}
    (hdepth : s.state.depthBound d kept.template ≤ depth) :
    Session.Alike strict ((Engine.service d).step s (.render place data))
      ((Snapshot.service strict depth).step s' (.render place data)) := by
  have hplace' := h.getElem?_obtained place
  rw [hplace] at hplace'
  obtain ⟨hresult, hafter⟩ := h.rendering d kept.template data {} hdepth
  have htext := congrArg (fun (sink : Sink) (_ : Unit) => sink.text) hafter.sink
  simp only [Service.step, hplace, hplace', Option.map_some]
  exact ⟨congrArg Answer.text (congr (congrArg Except.map htext) hresult), hafter.warnings, texts,
    h.source, h.strict, hafter.library.mirrors, hafter.library.source, h.obtained⟩

/-- Clearing forgets the templates of one and the texts of the other. -/
theorem clear (h : Session.Matches strict s s' texts) (depth : Nat) :
    Session.Alike strict ((Engine.service d).step s .clear)
      ((Snapshot.service strict depth).step s' .clear) := by
  refine ⟨rfl, ?_, texts, h.source, h.strict, ⟨h.mirrors.idle, rfl, fun _ => rfl, rfl⟩, h.texts,
    h.obtained⟩
  show Notice.warnings (s.state.cache.notices ++ [.cleared]) = []
  rw [h.mirrors.quiet]
  rfl

/-- Both know the same keys. -/
theorem isCached (h : Session.Matches strict s s' texts) (depth : Nat) (slot : Slot) :
    Session.Alike strict ((Engine.service d).step s (.isCached slot))
      ((Snapshot.service strict depth).step s' (.isCached slot)) := by
  refine ⟨congrArg Answer.flag ?_, rfl, texts, h⟩
  show (s.state.cache.find? slot).isSome = (s'.state.text? slot).isSome
  rcases h.mirrors.find?_cases slot with ⟨hfind, hnone⟩ | ⟨kept, text, hfind, hsome, -⟩
  · rw [hfind, hnone]
    rfl
  · rw [hfind, hsome]
    rfl

/-- A text put under a name changes the sources and no template. -/
theorem replace (h : Session.Matches strict s s' texts) (depth : Nat) (name text : String) :
    Session.Alike strict ((Engine.service d).step s (.replace name text))
      ((Snapshot.service strict depth).step s' (.replace name text)) := by
  obtain ⟨hsource, hstrict, hmirrors, htexts, hobtained⟩ := h
  have hafter : Mirrors s.state.cache
      ((Snapshot.service strict depth).replace s'.state name text) :=
    ⟨hmirrors.idle, hmirrors.quiet, hmirrors.found, hmirrors.size⟩
  refine ⟨rfl, rfl, Source.put name text texts, ?_, hstrict, hafter, fun other => ?_, hobtained⟩
  · show s.state.source.set name text = _
    rw [hsource]
    rfl
  · show (if other = name then some text else s'.state.source other) = _
    rw [lookup_put, htexts other]

/-- Where nothing was obtained, neither engine renders anything. -/
theorem absent (h : Session.Matches strict s s' texts) {place : Nat}
    (hplace : s.obtained[place]? = none) (depth : Nat) (data : Value) (sink : Sink) :
    Session.Alike strict ((Engine.service d).step s (.render place data))
        ((Snapshot.service strict depth).step s' (.render place data)) ∧
      Session.Alike strict ((Engine.service d).step s (.renderInto place data sink))
        ((Snapshot.service strict depth).step s' (.renderInto place data sink)) := by
  have hplace' := h.getElem?_obtained place
  rw [hplace] at hplace'
  simp only [Service.step, hplace, hplace', Option.map_none]
  exact ⟨⟨rfl, rfl, texts, h⟩, ⟨rfl, rfl, texts, h⟩⟩

/-- A step of the two sessions. How deep the renderings of the second one have to be allowed to go
is a matter of the first one alone. -/
theorem step (s : Session Engine Kept) (strict : Bool) (request : Request) :
    ∃ bound, ∀ depth s' texts, bound ≤ depth → Session.Matches strict s s' texts →
      Session.Alike strict ((Engine.service d).step s request)
        ((Snapshot.service strict depth).step s' request) := by
  cases request with
  | compile text => exact ⟨0, fun depth s' texts _ h => h.ofSlot d depth ⟨.inline, text⟩⟩
  | compileNamed name => exact ⟨0, fun depth s' texts _ h => h.ofSlot d depth ⟨.named, name⟩⟩
  | render place data =>
    cases hplace : s.obtained[place]? with
    | none => exact ⟨0, fun depth s' texts _ h => (h.absent d hplace depth data {}).1⟩
    | some kept =>
      exact ⟨_, fun depth s' texts hdepth h => h.render d hplace data hdepth⟩
  | renderInto place data sink =>
    cases hplace : s.obtained[place]? with
    | none => exact ⟨0, fun depth s' texts _ h => (h.absent d hplace depth data sink).2⟩
    | some kept =>
      exact ⟨_, fun depth s' texts hdepth h => h.renderInto d hplace data sink hdepth⟩
  | clear => exact ⟨0, fun depth s' texts _ h => h.clear d depth⟩
  | isCached slot => exact ⟨0, fun depth s' texts _ h => h.isCached d depth slot⟩
  | size =>
    exact ⟨0, fun depth s' texts _ h => ⟨congrArg Answer.count h.mirrors.size, rfl, texts, h⟩⟩
  | replace name text => exact ⟨0, fun depth s' texts _ h => h.replace d depth name text⟩

/-- The answers of two sessions that have come to the same point are the same from there on. -/
theorem run (strict : Bool) (requests : List Request) (s : Session Engine Kept) :
    ∃ bound, ∀ depth s' texts, bound ≤ depth → Session.Matches strict s s' texts →
      ((Engine.service d).run s requests).map (fun a => (a.1.map Kept.template, a.2)) =
        (Snapshot.service strict depth).run s' requests := by
  induction requests generalizing s with
  | nil => exact ⟨0, fun _ _ _ _ _ => rfl⟩
  | cons request rest ih =>
    obtain ⟨bound, hstep⟩ := Session.Matches.step d s strict request
    -- the rest of the run starts where the first step leaves the engine with the cache
    obtain ⟨bound', hrest⟩ := ih ((Engine.service d).step s request).2
    refine ⟨max bound bound', fun depth s' texts hdepth h => ?_⟩
    obtain ⟨hanswer, hwarnings, texts', hafter⟩ := hstep depth s' texts (by omega) h
    rw [Service.run, Service.run, List.map_cons, hrest depth _ texts' (by omega) hafter]
    rw [hanswer, hwarnings]

/-- A template in the cache stays there until the cache is cleared. -/
theorem stays (h : Session.Matches strict s s' texts) {request : Request}
    (hclear : request ≠ .clear) {slot : Slot} {kept : Kept}
    (hkept : s.state.cache.find? slot = some kept) :
    ((Engine.service d).step s request).2.state.cache.find? slot = some kept := by
  -- asking for another slot keeps what is kept,
  have hask (other : Slot) :
      (s.state.cache.get (s.state.source.loader d) other).2.find? slot = some kept := by
    have hcompiling : other ∉ s.state.cache.compiling := by simp [h.mirrors.idle]
    exact Cache.find?_get_of_find? rfl hcompiling hkept
  -- and so does rendering, which asks for the partials that it meets
  have hrender (t : Template) (data : Value) (sink : Sink) :
      (s.state.render d t data sink).2.2.2.cache.find? slot = some kept :=
    (h.rendering d t data sink (Nat.le_refl _)).2.library.stays slot kept hkept
  cases request with
  | compile text => exact hask ⟨.inline, text⟩
  | compileNamed name => exact hask ⟨.named, name⟩
  | render place data =>
    simp only [Service.step]
    split
    · exact hkept
    · next object _ => exact hrender object.template data {}
  | renderInto place data sink =>
    simp only [Service.step]
    split
    · exact hkept
    · next object _ => exact hrender object.template data sink
  | clear => exact absurd rfl hclear
  | isCached slot => exact hkept
  | size => exact hkept
  | replace name text => exact hkept

/-- What a slot is answered is in the cache afterwards. -/
theorem find?_of_answer (h : Session.Matches strict s s' texts) {slot : Slot} {kept : Kept}
    (hanswer : ((Engine.service d).step s (.ofSlot slot)).1.1 = .template (.ok kept)) :
    ((Engine.service d).step s (.ofSlot slot)).2.state.cache.find? slot = some kept := by
  have hcompiling : slot ∉ s.state.cache.compiling := by simp [h.mirrors.idle]
  obtain ⟨space, key⟩ := slot
  cases space with
  | inline => exact Cache.find?_get_self rfl hcompiling (Answer.template.inj hanswer)
  | named => exact Cache.find?_get_self rfl hcompiling (Answer.template.inj hanswer)

/-- A slot that has a template in the cache is answered with it. -/
theorem answer_of_find? {slot : Slot} {kept : Kept}
    (hkept : s.state.cache.find? slot = some kept) :
    ((Engine.service d).step s (.ofSlot slot)).1.1 = .template (.ok kept) := by
  obtain ⟨space, key⟩ := slot
  have hget : s.state.cache.get (s.state.source.loader d) ⟨space, key⟩ = _ :=
    Cache.get_of_find? hkept
  cases space with
  | inline => exact congrArg (fun r => Answer.template r.1) hget
  | named => exact congrArg (fun r => Answer.template r.1) hget

end Session.Matches

/-! ## Runs -/

namespace Service

variable {State Object : Type} (o : Service State Object)

theorem after_append (s : Session State Object) (before rest : List Request) :
    o.after s (before ++ rest) = o.after (o.after s before) rest := by
  induction before generalizing s with
  | nil => rfl
  | cons request before ih => exact ih (o.step s request).2

/-- An answer of a run is that of the session after the requests before it. -/
theorem run_getElem? (s : Session State Object) (requests : List Request) (i : Nat) :
    (o.run s requests)[i]? =
      requests[i]?.map fun request => (o.step (o.after s (requests.take i)) request).1 := by
  induction requests generalizing s i with
  | nil => simp [run]
  | cons request rest ih =>
    cases i with
    | zero => rfl
    | succ i =>
      rw [run, List.getElem?_cons_succ, List.getElem?_cons_succ, ih]
      rfl

end Service

/-- A session of an engine over a source in memory that has come to the same point as one of an
engine of snapshots. -/
def Session.Mirrored (strict : Bool) (s : Session Engine Kept) : Prop :=
  ∃ s' texts, Session.Matches strict s s' texts

namespace Session.Mirrored

variable (d : Disk) {strict : Bool} {s : Session Engine Kept}

theorem step (h : Session.Mirrored strict s) (request : Request) :
    Session.Mirrored strict ((Engine.service d).step s request).2 := by
  obtain ⟨s', texts, hmatches⟩ := h
  obtain ⟨bound, hstep⟩ := Session.Matches.step d s strict request
  obtain ⟨-, -, texts', hafter⟩ := hstep bound s' texts (Nat.le_refl _) hmatches
  exact ⟨_, texts', hafter⟩

theorem after (h : Session.Mirrored strict s) (requests : List Request) :
    Session.Mirrored strict ((Engine.service d).after s requests) := by
  induction requests generalizing s with
  | nil => exact h
  | cons request rest ih => exact ih (h.step d request)

/-- A template in the cache stays there over requests that do not clear the cache. -/
theorem stays (h : Session.Mirrored strict s) {slot : Slot} {kept : Kept}
    (hkept : s.state.cache.find? slot = some kept) {requests : List Request}
    (hclear : .clear ∉ requests) :
    ((Engine.service d).after s requests).state.cache.find? slot = some kept := by
  induction requests generalizing s with
  | nil => exact hkept
  | cons request rest ih =>
    have hfirst : Request.clear ≠ request := fun h => hclear (h ▸ List.mem_cons_self)
    have hrest : Request.clear ∉ rest := fun h => hclear (List.mem_cons_of_mem request h)
    obtain ⟨s', texts, hmatches⟩ := h
    have hstays := hmatches.stays d hfirst.symm hkept
    exact ih (Session.Mirrored.step d ⟨s', texts, hmatches⟩ request) hstays hrest

/-- A slot that was answered with a template is answered with the same one until the cache is
cleared. -/
theorem same_answer (h : Session.Mirrored strict s) {slot : Slot} {kept : Kept}
    (hanswer : ((Engine.service d).step s (.ofSlot slot)).1.1 = .template (.ok kept))
    {between : List Request} (hclear : .clear ∉ between) :
    ((Engine.service d).step ((Engine.service d).after s (.ofSlot slot :: between))
      (.ofSlot slot)).1.1 = .template (.ok kept) := by
  obtain ⟨s', texts, hmatches⟩ := h
  have hkept := hmatches.find?_of_answer d hanswer
  have hstays := (Session.Mirrored.step d ⟨s', texts, hmatches⟩ (.ofSlot slot)).stays d hkept hclear
  exact Session.Matches.answer_of_find? d hstays

end Session.Mirrored

theorem Session.matches_start (texts : List (String × String)) (strict : Bool) :
    Session.Matches strict (Engine.start texts strict) (Snapshot.start texts) texts :=
  ⟨rfl, rfl, ⟨rfl, rfl, fun _ => rfl, rfl⟩, fun _ => rfl, rfl⟩

/-- The front of a list up to one place, by way of an earlier one. -/
theorem take_of_getElem? {α : Type} {l : List α} {i j : Nat} {a : α} (h : l[i]? = some a)
    (hij : i < j) : l.take j = l.take i ++ a :: (l.drop (i + 1)).take (j - i - 1) := by
  obtain ⟨hi, rfl⟩ := List.getElem?_eq_some_iff.1 h
  have hj : j = i + (j - i - 1 + 1) := by omega
  rw [hj, List.take_add, List.drop_eq_getElem_cons hi, List.take_succ_cons]
  congr 3
  omega

/-- The caching engine refines an engine of snapshots. Over every run of requests all answers and
warnings are the same, if the renderings of the engine of snapshots may go deep enough; and a slot
asked for twice, with no clearing of the cache between, is answered with the same object twice. -/
theorem Engine.refines_snapshots (d : Disk) (texts : List (String × String)) (strict : Bool)
    (requests : List Request) :
    let answers := (Engine.service d).run (Engine.start texts strict) requests
    (∃ bound, ∀ depth, bound ≤ depth →
      answers.map (fun a => (a.1.map Kept.template, a.2)) =
        (Snapshot.service strict depth).run (Snapshot.start texts) requests) ∧
    ∀ (i j : Nat) (slot : Slot) (kept : Kept), i ≤ j →
      requests[i]? = some (Request.ofSlot slot) → requests[j]? = some (Request.ofSlot slot) →
      (∀ k, i < k → k < j → requests[k]? ≠ some Request.clear) →
      answers[i]?.map Prod.fst = some (Answer.template (.ok kept)) →
      answers[j]?.map Prod.fst = some (Answer.template (.ok kept)) := by
  have hstart := Session.matches_start texts strict
  constructor
  · obtain ⟨bound, hrun⟩ := Session.Matches.run d strict requests (Engine.start texts strict)
    exact ⟨bound, fun depth hdepth => hrun depth _ texts hdepth hstart⟩
  · intro i j slot kept hij hi hj hclear hanswer
    by_cases hsame : i = j
    · rw [← hsame]
      exact hanswer
    · rw [Service.run_getElem?, hi] at hanswer
      rw [Service.run_getElem?, hj]
      have hfirst := Option.some.inj hanswer
      -- what was answered first is in the cache until the requests after it clear the cache
      have hbetween : Request.clear ∉ (requests.drop (i + 1)).take (j - i - 1) := by
        intro hmem
        obtain ⟨k, hk⟩ := List.mem_iff_getElem?.1 hmem
        rw [List.getElem?_take, List.getElem?_drop] at hk
        split at hk
        · exact hclear (i + 1 + k) (by omega) (by omega) hk
        · cases hk
      have hlive : Session.Mirrored strict
          ((Engine.service d).after (Engine.start texts strict) (requests.take i)) :=
        Session.Mirrored.after d ⟨_, texts, hstart⟩ (requests.take i)
      have hsecond := hlive.same_answer d hfirst hbetween
      rw [← Service.after_append, ← take_of_getElem? hi (by omega)] at hsecond
      exact congrArg some hsecond

/-- A text that is replaced after it was compiled: the engine goes on answering the old template. -/
theorem Engine.refines_snapshots_replaced :
    let d : Disk := ⟨.folder [], []⟩
    let requests : List Request := [.compileNamed "a", .replace "a" "new", .compileNamed "a"]
    let answers := (Engine.service d).run (Engine.start [("a", "")] true) requests
    (∃ depth, answers.map (fun a => (a.1.map Kept.template, a.2)) =
      (Snapshot.service true depth).run (Snapshot.start [("a", "")]) requests) ∧
    answers[2]?.map Prod.fst = some (.template (.ok ⟨0, "a", []⟩)) := by
  intro d requests answers
  have hcompile : Template.compile "" "a" = .ok ⟨"a", []⟩ := by with_unfolding_all rfl
  have hmade : ((Source.memory [("a", "")]).loader d).made ⟨.named, "a"⟩ = .ok ⟨"a", []⟩ := by
    show (Template.compile "" "a").mapError Fault.malformed = _
    rw [hcompile]
    rfl
  have hfirst : answers[0]?.map Prod.fst = some (.template (.ok ⟨0, "a", []⟩)) := by
    let loader := (Source.memory [("a", "")]).loader d
    obtain ⟨told, -, hget⟩ : ∃ told, _ ∧ Cache.get {} loader ⟨.named, "a"⟩ = _ :=
      Cache.get_of_find?_none rfl rfl List.not_mem_nil
    show some (Answer.template (Cache.get {} loader ⟨.named, "a"⟩).1) = _
    rw [hget, hmade]
  obtain ⟨⟨bound, hrun⟩, hsame⟩ := Engine.refines_snapshots d [("a", "")] true requests
  refine ⟨⟨bound, hrun bound (Nat.le_refl _)⟩, ?_⟩
  refine hsame 0 2 ⟨.named, "a"⟩ ⟨0, "a", []⟩ (by omega) rfl rfl ?_ hfirst
  intro k hk hk'
  obtain rfl : k = 1 := by omega
  simp [requests]

end Mustache
