import Mustache.Proofs.Cache.Moves

/-!
# Clearing a cache in use

A cache may be cleared between any two moves of its calls, and the texts that there are to load may
change between any two as well. A call that begins after the cache was cleared answers with a
template of a text that was loaded after that, with one exception: what a call has in its hands is
not cleared. Where another call for the same name has loaded its text and not yet kept the template,
it keeps it after the cache was cleared, and later calls find it.

To tell which texts the templates of one name are made of, three things are followed through a run:
the template that the cache has for the name, the builds of the name that are going on, and the
answer of the call in question.
-/

namespace Mustache

/-- A template that is made of one of some texts. -/
def MadeOf (P : String → Prop) (name : String) (t : Template) : Prop :=
  ∃ text, P text ∧ Template.compile text name = .ok t

namespace Phase

/-- A call that builds has one of some texts or what is made of one. -/
def Builds (P : String → Prop) (name : String) : Phase → Prop
  | .compiling _ text => P text
  | .built _ t => MadeOf P name t
  | _ => True

/-- What a call answers with, as far as that is known. -/
def answer? : Phase → Option Kept
  | .leaving _ result | .dropping result | .done result => result.toOption
  | _ => none

/-- A call has a text, or what is made of it, and has not kept the template yet. -/
def Carries (text name : String) : Phase → Prop
  | .compiling _ loaded => loaded = text
  | .built _ t => Template.compile text name = .ok t
  | _ => False

variable {P Q : String → Prop} {name : String} {p : Phase}

/-- Of the texts that a build may have, those matter that it has. -/
theorem Builds.imp (h : p.Builds P name) (hPQ : ∀ text, p.Carries text name → P text → Q text) :
    p.Builds Q name := by
  cases p with
  | compiling lock text => exact hPQ text rfl h
  | built lock t =>
    obtain ⟨text, htext, ht⟩ := h
    exact ⟨text, hPQ text ht htext, ht⟩
  | _ => trivial

/-- A build that starts has no answer yet. -/
theorem answer?_ofBuild (slot : Slot) (lock : Nat) : (Phase.ofBuild slot lock).answer? = none := by
  unfold ofBuild
  cases slot.space with
  | inline => rfl
  | named => rfl

end Phase

namespace Traffic

variable {a : Calls} {s s' : Traffic} {i j : Nat} {p q : Phase} {P : String → Prop}

/-! ## What a move does to templates -/

namespace Goes

/-- A template in the cache was there before, or the call that moves has built it. -/
theorem template_of_some (h : Goes a s i q p s') {slot : Slot} {kept : Kept}
    (hkept : s'.cache.find? slot = some kept) :
    s.cache.find? slot = some kept ∨ a.slot i = slot ∧ ∃ lock, q = .built lock kept.template := by
  cases h with
  | @installed lock t =>
    have hkept : (s.cache.install (a.slot i) t).2.find? slot = some kept := hkept
    cases hfind : s.cache.find? (a.slot i) with
    | some found =>
      rw [Cache.install_of_find? hfind] at hkept
      exact .inl hkept
    | none =>
      rw [Cache.install_of_find?_none hfind, Cache.find?_keep] at hkept
      split at hkept
      · next hslot =>
        obtain rfl := Option.some.inj hkept
        exact .inr ⟨hslot.symm, lock, rfl⟩
      · exact .inl hkept
  | _ => exact .inl hkept

/-- An answer was known before, or it is the template that the cache has for the slot. -/
theorem answer?_of_some (h : Goes a s i q p s') {kept : Kept} (hkept : p.answer? = some kept) :
    q.answer? = some kept ∨ s'.cache.find? (a.slot i) = some kept := by
  cases h with
  | stays => exact .inl hkept
  | found hfind =>
    obtain rfl := Option.some.inj hkept
    exact .inr hfind
  | foundAgain hfind =>
    obtain rfl := Option.some.inj hkept
    exact .inr hfind
  | installed =>
    obtain rfl := Option.some.inj hkept
    exact .inr (Cache.find?_install_self ..)
  | builds =>
    rw [Phase.answer?_ofBuild] at hkept
    cases hkept
  | released => exact .inl hkept
  | dropped => exact .inl hkept
  | _ => cases hkept

/-- A build goes on with the text that it has, once one is loaded. -/
theorem builds_of (h : Goes a s i q p s') (hnamed : (a.slot i).space = .named)
    (hq : q.Builds P (a.slot i).name)
    (hload : ∀ lock text, q = .loading lock → p = .compiling lock text → P text) :
    p.Builds P (a.slot i).name := by
  cases h with
  | stays => exact hq
  | builds =>
    rw [Phase.ofBuild, hnamed]
    trivial
  | loaded => exact hload _ _ rfl rfl
  | compiled ht => exact ⟨_, hq, ht⟩
  | _ => trivial

end Goes

/-! ## Texts that are drawn on -/

/-- The templates that matter to a call are made of some texts: the one in the cache, those that are
being built, and its own answer. -/
structure DrawsOn (a : Calls) (i : Nat) (P : String → Prop) (s : Traffic) : Prop where
  kept : ∀ kept, s.cache.find? (a.slot i) = some kept → MadeOf P (a.slot i).name kept.template
  builds : ∀ j, a.slot j = a.slot i → (s.phase j).Builds P (a.slot i).name
  answer : ∀ kept, (s.phase i).answer? = some kept → MadeOf P (a.slot i).name kept.template

namespace DrawsOn

/-- A move draws on no other text than one that it loads. -/
theorem goes (h : s.DrawsOn a i P) (hnamed : (a.slot i).space = .named) (hj : s.phase j = q)
    (hgoes : Goes a s j q p s')
    (hload : a.slot j = a.slot i →
      ∀ lock text, q = .loading lock → p = .compiling lock text → P text) :
    (s'.setPhase j p).DrawsOn a i P := by
  have hbuilds (hslot : a.slot j = a.slot i) : q.Builds P (a.slot i).name := hj ▸ h.builds j hslot
  have hcache (kept : Kept) (hkept : s'.cache.find? (a.slot i) = some kept) :
      MadeOf P (a.slot i).name kept.template := by
    rcases hgoes.template_of_some hkept with hold | ⟨hslot, lock, rfl⟩
    · exact h.kept kept hold
    · exact hbuilds hslot
  refine ⟨hcache, ?_, ?_⟩
  -- builds: the one that moved, and those of the other calls
  · intro k hk
    by_cases hkj : k = j
    · subst hkj
      rw [phase_setPhase, ← hk]
      exact hgoes.builds_of (hk ▸ hnamed) (hk ▸ hbuilds hk) (hload hk)
    · rw [phase_setPhase_of_ne hkj, hgoes.phase_eq]
      exact h.builds k hk
  -- the answer is an old one or was found in the cache
  · intro kept hkept
    by_cases hij : i = j
    · subst hij
      rw [phase_setPhase] at hkept
      rcases hgoes.answer?_of_some hkept with hold | hfind
      · exact h.answer kept (hj ▸ hold)
      · exact hcache kept hfind
    · rw [phase_setPhase_of_ne hij, hgoes.phase_eq] at hkept
      exact h.answer kept hkept

/-- Only loads bring in texts: every other move of a call keeps what the template draws on. -/
theorem go (h : s.DrawsOn a i P) (hnamed : (a.slot i).space = .named)
    (hj : ∀ lock, s.phase j ≠ .loading lock) : (s.step a (.go j)).DrawsOn a i P := by
  obtain ⟨p, s', hgoes, hstep⟩ := comes_go (a := a) (s := s) (i := j) rfl
  rw [hstep]
  exact h.goes hnamed rfl hgoes fun _ lock _ hq => absurd hq (hj lock)

theorem load (h : s.DrawsOn a i P) (hnamed : (a.slot i).space = .named) {lock : Nat}
    (hj : s.phase j = .loading lock) {result : Except Fault String}
    (hload : a.slot j = a.slot i → ∀ text, result = .ok text → P text) :
    (s.step a (.load j result)).DrawsOn a i P := by
  have hstep : s.step a (.load j result) = s.load a j lock result := by rw [step, hj]
  rw [hstep]
  cases result with
  | error fault =>
    refine h.goes hnamed hj .notLoaded ?_
    intro _ _ _ _ hleaving
    cases hleaving
  | ok loaded =>
    refine h.goes hnamed hj .loaded ?_
    intro hslot _ text _ hcompiling
    cases hcompiling
    exact hload hslot loaded rfl

end DrawsOn

end Traffic

/-! ## A source whose texts change -/

/-- A cache in use by calls, and what loading each name comes to at the time. -/
structure Sourced where
  traffic : Traffic
  texts : String → Except Fault String

namespace Sourced

/-- What may happen next. -/
inductive Event
  /-- A call goes on, unless it waits for a lock. -/
  | go (i : Nat)
  /-- The source changes for a name. -/
  | supply (key : String) (result : Except Fault String)
  /-- The cache is cleared. -/
  | clear

variable (a : Calls) (s : Sourced)

/-- What comes of an event. A call that loads a text gets the one that is there. -/
def step : Event → Sourced
  | .go i =>
    match s.traffic.phase i with
    | .loading _ => { s with traffic := s.traffic.step a (.load i (s.texts (a.slot i).key)) }
    | _ => { s with traffic := s.traffic.step a (.go i) }
  | .supply key result => { s with texts := Function.update s.texts key result }
  | .clear => { s with traffic := s.traffic.step a .clear }

/-- Events, one after the other. -/
def run (events : List Event) : Sourced := events.foldl (step a) s

/-- An empty cache before any call. -/
def start (texts : String → Except Fault String) : Sourced := ⟨.start {}, texts⟩

/-- A call whose turn it is loads a text. -/
def Loads (i : Nat) (text : String) : Prop :=
  ∃ lock, s.traffic.phase i = .loading lock ∧ s.texts (a.slot i).key = .ok text

/-- In the course of some events a call for a slot loads a text. -/
def LoadsDuring (events : List Event) (slot : Slot) (text : String) : Prop :=
  ∃ before i after, events = before ++ .go i :: after ∧ a.slot i = slot ∧
    (s.run a before).Loads a i text

/-- Some call for a slot has a text in its hands, or what is made of it. -/
def InHand (slot : Slot) (text : String) : Prop :=
  ∃ i, a.slot i = slot ∧ (s.traffic.phase i).Carries text slot.name

variable {a s} {i : Nat} {P Q : String → Prop} {event : Event} {events : List Event} {slot : Slot}
  {text : String}

theorem loadsDuring_nil : ¬s.LoadsDuring a [] slot text := by
  rintro ⟨before, i, after, hevents, -⟩
  cases before with
  | nil => cases hevents
  | cons event before => cases hevents

/-- A text is loaded during some events at the first of them or later. -/
theorem loadsDuring_cons :
    s.LoadsDuring a (event :: events) slot text ↔
      (∃ i, event = .go i ∧ a.slot i = slot ∧ s.Loads a i text) ∨
        (s.step a event).LoadsDuring a events slot text := by
  constructor
  · rintro ⟨before, i, after, hevents, hslot, hloads⟩
    cases before with
    | nil =>
      obtain ⟨rfl, rfl⟩ := List.cons.inj hevents
      exact .inl ⟨i, rfl, hslot, hloads⟩
    | cons first before =>
      obtain ⟨rfl, rfl⟩ := List.cons.inj hevents
      exact .inr ⟨before, i, after, rfl, hslot, hloads⟩
  · rintro (⟨i, rfl, hslot, hloads⟩ | ⟨before, i, after, rfl, hslot, hloads⟩)
    · exact ⟨[], i, events, rfl, hslot, hloads⟩
    · exact ⟨event :: before, i, after, rfl, hslot, hloads⟩

/-- One event keeps what a call draws on if the texts it loads for the slot have the property. -/
theorem drawsOn_step (h : s.traffic.DrawsOn a i P) (hnamed : (a.slot i).space = .named)
    (hload : ∀ j text, event = .go j → a.slot j = a.slot i → s.Loads a j text → P text) :
    (s.step a event).traffic.DrawsOn a i P := by
  cases event with
  | go j =>
    unfold step
    dsimp only
    split
    · next lock hj =>
      refine h.load hnamed hj ?_
      intro hslot text htext
      exact hload j text rfl hslot ⟨lock, hj, htext⟩
    · next hj => exact h.go hnamed hj
  | supply key result => exact h
  | clear => exact ⟨nofun, h.builds, h.answer⟩

/-- A run draws on no other texts than those that are loaded in its course. -/
theorem drawsOn_run (h : s.traffic.DrawsOn a i P) (hnamed : (a.slot i).space = .named)
    (hload : ∀ text, s.LoadsDuring a events (a.slot i) text → P text) :
    (s.run a events).traffic.DrawsOn a i P := by
  induction events generalizing s with
  | nil => exact h
  | cons event events ih =>
    apply ih
    · apply drawsOn_step h hnamed
      intro j text hevent hslot hloads
      exact hload text (loadsDuring_cons.2 (.inl ⟨j, hevent, hslot, hloads⟩))
    · intro text hloads
      exact hload text (loadsDuring_cons.2 (.inr hloads))

/-- Clearing leaves only what the calls have in their hands. -/
theorem drawsOn_clear (h : s.traffic.DrawsOn a i P) (hnew : s.traffic.phase i = .new)
    (hPQ : ∀ text, P text → s.InHand a (a.slot i) text → Q text) :
    (s.step a .clear).traffic.DrawsOn a i Q := by
  refine ⟨nofun, ?_, ?_⟩
  · intro j hj
    exact (h.builds j hj).imp fun text hcarries htext => hPQ text htext ⟨j, hj, hcarries⟩
  · intro kept hkept
    have hnone : (s.traffic.phase i).answer? = some kept := hkept
    rw [hnew] at hnone
    cases hnone

/-- Before it starts, a call draws on nothing. -/
theorem drawsOn_start (a : Calls) (texts : String → Except Fault String) (i : Nat)
    (P : String → Prop) : (start texts).traffic.DrawsOn a i P :=
  ⟨nofun, fun _ _ => trivial, nofun⟩

/-- A call for a name that begins after the cache was cleared and ends with a template ends with one
of a text that a call for this name has loaded since then; or of one that such a call had loaded
before and, when the cache was cleared, had in its hands. -/
theorem loaded_after_clear (a : Calls) (texts : String → Except Fault String)
    (before after : List Event) {i : Nat} {kept : Kept} (hnamed : (a.slot i).space = .named)
    (hnew : ((start texts).run a before).traffic.phase i = .new)
    (hdone : ((start texts).run a (before ++ .clear :: after)).traffic.phase i = .done (.ok kept)) :
    let s := (start texts).run a before
    ∃ text, Template.compile text (a.slot i).name = .ok kept.template ∧
      ((s.step a .clear).LoadsDuring a after (a.slot i) text ∨
        (start texts).LoadsDuring a before (a.slot i) text ∧ s.InHand a (a.slot i) text) := by
  intro s
  have hbefore : s.traffic.DrawsOn a i ((start texts).LoadsDuring a before (a.slot i)) :=
    drawsOn_run (drawsOn_start a texts i _) hnamed fun _ hloads => hloads
  have hafter : ((s.step a .clear).run a after).traffic.DrawsOn a i fun text =>
      (s.step a .clear).LoadsDuring a after (a.slot i) text ∨
        (start texts).LoadsDuring a before (a.slot i) text ∧ s.InHand a (a.slot i) text := by
    apply drawsOn_run _ hnamed
    · exact fun _ hloads => .inl hloads
    · apply drawsOn_clear hbefore hnew
      exact fun _ hloads hhand => .inr ⟨hloads, hhand⟩
  have hrun : (start texts).run a (before ++ .clear :: after) = (s.step a .clear).run a after :=
    List.foldl_append
  rw [hrun] at hdone
  obtain ⟨text, htext, ht⟩ := hafter.answer kept (by rw [hdone]; rfl)
  exact ⟨text, ht, htext⟩

/-- A name that is asked for, changed, cleared and asked for again answers with its new text. -/
theorem loaded_after_clear_changed :
    let a : Calls := ⟨fun _ => ⟨.named, "a"⟩, id⟩
    let before : List Event := List.replicate 9 (.go 0) ++ [.supply "a" (.ok "y")]
    let after : List Event := List.replicate 9 (.go 1)
    let s := (start fun _ => .ok "x").run a before
    s.traffic.phase 1 = .new ∧
      ∃ text, Template.compile text "a" = .ok ⟨"a", [.text "y"]⟩ ∧
        ((s.step a .clear).LoadsDuring a after ⟨.named, "a"⟩ text ∨
          (start fun _ => .ok "x").LoadsDuring a before ⟨.named, "a"⟩ text ∧
            s.InHand a ⟨.named, "a"⟩ text) := by
  intro a before after s
  have hx : Template.compile "x" "a" = .ok ⟨"a", [.text "x"]⟩ := by with_unfolding_all rfl
  have hy : Template.compile "y" "a" = .ok ⟨"a", [.text "y"]⟩ := by with_unfolding_all rfl
  have hends : s.traffic.phase 1 = .new ∧
      ((start fun _ => .ok "x").run a (before ++ .clear :: after)).traffic.phase 1 =
        .done (.ok ⟨1, "a", [.text "y"]⟩) := by
    simp [s, before, after, a, run, start, step, Traffic.step, Traffic.start, Traffic.look,
      Traffic.takeLock, Traffic.acquire, Traffic.lookAgain, Traffic.load, Traffic.compile,
      Traffic.unmark, Traffic.install, Traffic.release, Traffic.drop, Traffic.setPhase,
      Phase.ofBuild, Cache.find?, Cache.clear, Cache.tell, Cache.install, Cache.isCached,
      Slot.name, hx, hy, Function.update, List.replicate_succ]
  exact ⟨hends.1, loaded_after_clear a (fun _ => .ok "x") before after rfl hends.1 hends.2⟩

/-- A call that has loaded its text when the cache is cleared keeps the template afterwards. The
source has changed by then, and a call that begins later answers with the template of the old text,
without any text having been loaded since. -/
theorem clear_spares_build :
    let a : Calls := ⟨fun _ => ⟨.named, "a"⟩, id⟩
    let before : List Event := List.replicate 5 (.go 0) ++ [.supply "a" (.ok "y")]
    let after : List Event := [.go 0, .go 0, .go 1]
    let s := (start fun _ => .ok "x").run a before
    s.traffic.phase 1 = .new ∧ s.texts "a" = .ok "y" ∧
      (start fun _ => .ok "x").LoadsDuring a before ⟨.named, "a"⟩ "x" ∧
      (∀ text, ¬(s.step a .clear).LoadsDuring a after ⟨.named, "a"⟩ text) ∧
      ∃ kept, ((s.step a .clear).run a after).traffic.phase 1 = .done (.ok kept) ∧
        Template.compile "x" "a" = .ok kept.template ∧
        Template.compile "y" "a" ≠ .ok kept.template := by
  intro a before after s
  have hx : Template.compile "x" "a" = .ok ⟨"a", [.text "x"]⟩ := by with_unfolding_all rfl
  have hy : Template.compile "y" "a" = .ok ⟨"a", [.text "y"]⟩ := by with_unfolding_all rfl
  -- the first call has loaded its text before the clear and keeps the template after it
  have hends : s.traffic.phase 1 = .new ∧ s.texts "a" = .ok "y" ∧
      ((start fun _ => .ok "x").run a (List.replicate 4 (.go 0))).Loads a 0 "x" ∧
      (∀ text, ¬(s.step a .clear).LoadsDuring a after ⟨.named, "a"⟩ text) ∧
      ((s.step a .clear).run a after).traffic.phase 1 = .done (.ok ⟨0, "a", [.text "x"]⟩) := by
    simp [s, before, after, a, loadsDuring_cons, loadsDuring_nil, Loads, run, start, step,
      Traffic.step, Traffic.start, Traffic.look, Traffic.takeLock, Traffic.acquire,
      Traffic.lookAgain, Traffic.load, Traffic.compile, Traffic.unmark, Traffic.install,
      Traffic.setPhase, Phase.ofBuild, Cache.find?, Cache.clear, Cache.tell, Cache.install,
      Cache.isCached, Slot.name, hx, Function.update, List.replicate_succ]
  obtain ⟨hnew, htext, hloads, hnone, hdone⟩ := hends
  refine ⟨hnew, htext, ⟨_, 0, _, rfl, rfl, hloads⟩, hnone, _, hdone, hx, ?_⟩
  rw [hy]
  simp

end Sourced

end Mustache
