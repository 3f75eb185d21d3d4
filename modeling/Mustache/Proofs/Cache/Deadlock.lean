import Mathlib.Logic.Relation
import Mustache.Proofs.Cache.Bookkeeping
import Mustache.Proofs.Cache.Threads

/-!
# Threads that wait for each other

A call that waits for a lock waits for the call that holds it, and so for the thread of that call.
A thread never waits for itself, since a call for a slot that its own thread builds fails before it
comes to any lock. Threads may wait for each other in a circle only where the loads ask for slots in
a circle: the lock that the innermost call of a thread waits for is held by a call for the same
slot, and from that call the loads of the other thread lead to what its innermost call asks for.

Where loads do ask for each other, such a circle can come about, and it stays. What each thread
builds is known to that thread only, so the check for cycles finds nothing, and no call fails.
-/

namespace Mustache

namespace Threads

variable (a : Calls) (s : Threads)

/-- The innermost call of one thread waits for a lock that a call of another holds. -/
def WaitsFor (t t' : Nat) : Prop :=
  ∃ i below lock j, s.stack t = i :: below ∧ s.traffic.phase i = .waiting lock ∧
    s.traffic.holder lock = some j ∧ a.thread j = t'

/-- What holds of threads and of the locks that their calls have. -/
structure Locked (loads : String → Loading) : Prop where
  nested : s.Nested a loads
  held : s.traffic.Held
  numbered : ∃ owner, s.traffic.Numbered a owner

variable {a s} {loads : String → Loading} {t t' i j lock : Nat} {below : List Nat}

/-- What a thread that goes on does to what the calls share. -/
theorem traffic_go (hstack : s.stack t = i :: below) :
    (s.go a t).traffic = s.traffic.step a .clear ∨
      Traffic.Comes a s.traffic i (s.traffic.phase i) (s.go a t).traffic := by
  unfold go
  rw [hstack]
  dsimp only
  split
  · next hi =>
    unfold goLoad
    split
    · exact .inr (hi ▸ Traffic.comes_step_load hi _)
    · exact .inr (Traffic.comes_self rfl)
    · exact .inl rfl
  · exact .inr (Traffic.comes_self rfl)
  · exact .inr (Traffic.comes_go rfl)

/-- Beginning a call moves nothing but the stack of its thread. -/
theorem traffic_begin (i : Nat) : (s.begin a i).traffic = s.traffic := by
  unfold begin
  dsimp only
  split
  · rfl
  · split
    · rfl
    · rfl
  · rfl

/-- What a turn does to what the calls share. -/
theorem traffic_step (turn : Turn) :
    (s.step a turn).traffic = s.traffic.step a .clear ∨
      ∃ i, Traffic.Comes a s.traffic i (s.traffic.phase i) (s.step a turn).traffic := by
  cases turn with
  | begin i =>
    have htraffic : (s.step a (.begin i)).traffic = s.traffic := traffic_begin i
    rw [htraffic]
    exact .inr ⟨i, Traffic.comes_self rfl⟩
  | go t =>
    cases hstack : s.stack t with
    | nil =>
      have hgo : s.step a (.go t) = s := by
        show s.go a t = s
        rw [go, hstack]
      rw [hgo]
      exact .inr ⟨0, Traffic.comes_self rfl⟩
    | cons i below => exact (traffic_go hstack).imp_right fun h => ⟨i, h⟩
  | clear => exact .inl rfl

/-- At the start no lock is held and every stack is empty. -/
theorem locked_start (a : Calls) (loads : String → Loading) (c : Cache) :
    (start a loads c).Locked a loads where
  nested := nested_start a loads c
  held _ _ := ⟨nofun, nofun⟩
  numbered := ⟨fun _ => ⟨.named, ""⟩, nofun, nofun⟩

namespace Locked

/-- A turn of any thread keeps the locks and the stacks in step. -/
theorem step (h : s.Locked a loads) (turn : Turn) : (s.step a turn).Locked a loads := by
  obtain ⟨owner, hnumbered⟩ := h.numbered
  rcases traffic_step (a := a) (s := s) turn with hclear | ⟨i, hcomes⟩
  · refine ⟨h.nested.step turn, ?_, owner, ?_⟩
    · rw [hclear]
      exact h.held
    · rw [hclear]
      exact ⟨hnumbered.table, hnumbered.phase⟩
  · exact ⟨h.nested.step turn, h.held.comes rfl hcomes, hnumbered.comes rfl hcomes⟩

theorem run (h : s.Locked a loads) (turns : List Turn) : (s.run a turns).Locked a loads := by
  induction turns generalizing s with
  | nil => exact h
  | cons turn rest ih => exact ih (h.step turn)

/-- A call that holds a lock is in the stack of its thread. -/
theorem mem_stack (h : s.Locked a loads) (hj : s.traffic.holder lock = some j) :
    j ∈ s.stack (a.thread j) := by
  by_contra hmem
  have hheld := (h.held lock j).1 hj
  rcases h.nested.idle j hmem with hnew | ⟨result, hdone⟩
  · rw [hnew] at hheld
    cases hheld
  · rw [hdone] at hheld
    cases hheld

/-- A call that waits for a lock asks for the same slot as the call that holds it. -/
theorem slot_eq (h : s.Locked a loads) (hi : s.traffic.phase i = .waiting lock)
    (hj : s.traffic.holder lock = some j) : a.slot j = a.slot i := by
  obtain ⟨owner, hnumbered⟩ := h.numbered
  have hlock : (s.traffic.phase j).lock? = some lock := by
    have hheld := (h.held lock j).1 hj
    revert hheld
    cases s.traffic.phase j with
    | waiting => exact nofun
    | _ => exact id
  have howner : owner lock = a.slot i := (hnumbered.phase i lock (by rw [hi]; rfl)).1
  exact (hnumbered.phase j lock hlock).1.symm.trans howner

/-- The loads in the stack of a thread lead to what its innermost call asks for. -/
theorem asks_innermost (h : s.Locked a loads) (hstack : s.stack t = i :: below)
    (hj : j ∈ below) : Relation.TransGen (Slot.Asks loads) (a.slot j) (a.slot i) := by
  have hasks := (h.nested.standing t).asks
  rw [hstack] at hasks
  clear hstack
  -- down the stack from its innermost call, each load asks for the slot of the call inside it
  induction below generalizing i with
  | nil => cases hj
  | cons k below ih =>
    obtain ⟨hik, hrest⟩ := List.isChain_cons_cons.1 hasks
    rcases List.mem_cons.1 hj with rfl | hj
    · exact .single hik
    · exact (ih hj hrest).tail hik

/-- A thread that waits for another asks for a slot from which the loads of the other lead to what
that one asks for; and they do so by some steps if the other waits, too. -/
theorem asks_of_waitsFor (h : s.Locked a loads) {i' : Nat} {below' : List Nat}
    (hwaits : s.WaitsFor a t t') (hstack : s.stack t = i :: below)
    (hstack' : s.stack t' = i' :: below') :
    Relation.ReflTransGen (Slot.Asks loads) (a.slot i) (a.slot i') ∧
      ((s.traffic.phase i').held? = none →
        Relation.TransGen (Slot.Asks loads) (a.slot i) (a.slot i')) := by
  obtain ⟨k, rest, lock, j, hk, hwaiting, hholder, rfl⟩ := hwaits
  obtain ⟨rfl, rfl⟩ := List.cons.inj (hstack.symm.trans hk)
  have hmem := h.mem_stack hholder
  rw [hstack'] at hmem
  rw [← h.slot_eq hwaiting hholder]
  rcases List.mem_cons.1 hmem with rfl | hbelow
  · have hheld := (h.held lock j).1 hholder
    exact ⟨.refl, fun hnone => absurd (hnone.symm.trans hheld) nofun⟩
  · have hasks := h.asks_innermost hstack' hbelow
    exact ⟨hasks.to_reflTransGen, fun _ => hasks⟩

/-- Along a chain of waiting threads, each innermost call leads to the next by asking. -/
theorem asks_of_waits (h : s.Locked a loads) {i' : Nat} {below' : List Nat}
    (hwaits : Relation.ReflTransGen (s.WaitsFor a) t t') (hstack : s.stack t = i :: below)
    (hstack' : s.stack t' = i' :: below') :
    Relation.ReflTransGen (Slot.Asks loads) (a.slot i) (a.slot i') := by
  induction hwaits generalizing i' below' with
  | refl =>
    obtain ⟨rfl, -⟩ := List.cons.inj (hstack.symm.trans hstack')
    exact .refl
  | tail _ hlast ih =>
    have ⟨_, _, _, _, hk, _⟩ := hlast
    exact (ih hk).trans (h.asks_of_waitsFor hlast hk hstack').1

/-- Threads that wait for each other in a circle ask for slots in a circle. -/
theorem asks_of_circle (h : s.Locked a loads) (hstack : s.stack t = i :: below)
    (hcircle : Relation.TransGen (s.WaitsFor a) t t) :
    Relation.TransGen (Slot.Asks loads) (a.slot i) (a.slot i) := by
  obtain ⟨_, ⟨k, rest, lock, -, hk, hwaiting, -⟩, -⟩ := Relation.TransGen.head'_iff.1 hcircle
  obtain ⟨rfl, rfl⟩ := List.cons.inj (hstack.symm.trans hk)
  -- the last wait is for a lock that the thread itself has; its innermost call, which waits, holds
  -- none, so the holder is one whose load leads to it in at least one step
  obtain ⟨t', hwaits, hlast⟩ := Relation.TransGen.tail'_iff.1 hcircle
  have ⟨_, _, _, _, hj, _⟩ := hlast
  have hnone : (s.traffic.phase i).held? = none := by
    rw [hwaiting]
    rfl
  exact .trans_right (h.asks_of_waits hwaits hstack hj)
    ((h.asks_of_waitsFor hlast hj hstack).2 hnone)

/-- A call for a slot that its own thread is building has no lock. -/
theorem lock?_of_mem_below (h : s.Locked a loads) (hstack : s.stack t = i :: below)
    (hmem : a.slot i ∈ below.map a.slot) : (s.traffic.phase i).lock? = none := by
  have hguarded := h.nested.guarded hstack
  have hmem : a.slot i ∈ (below.map a.slot).reverse := List.mem_reverse.2 hmem
  cases hi : s.traffic.phase i with
  | new | missed | dropping | done => rfl
  | loading =>
    rw [hi] at hguarded
    exact absurd hmem hguarded.2.1
  | waiting | holding | compiling | built | leaving =>
    rw [hi] at hguarded
    exact absurd hmem hguarded.2

/-- No thread waits for itself. -/
theorem not_waitsFor_self (h : s.Locked a loads) : ¬s.WaitsFor a t t := by
  rintro ⟨i, below, lock, j, hstack, hi, hholder, rfl⟩
  have hmem := h.mem_stack hholder
  rw [hstack] at hmem
  rcases List.mem_cons.1 hmem with rfl | hbelow
  · have hheld := (h.held lock j).1 hholder
    rw [hi] at hheld
    cases hheld
  · have hslot : a.slot i ∈ below.map a.slot :=
      h.slot_eq hi hholder ▸ List.mem_map_of_mem hbelow
    have hnone := h.lock?_of_mem_below hstack hslot
    rw [hi] at hnone
    cases hnone

/-- A call for a slot that its own thread is building fails, and the fault names the slots that are
being built. -/
theorem cycle_of_mem_below (h : s.Locked a loads) (hstack : s.stack t = i :: below)
    (hmem : a.slot i ∈ below.map a.slot) (hi : s.traffic.phase i = .missed) :
    (s.step a (.go t)).traffic.phase i = .done (.error (.cycle
      ((below.map a.slot).reverse.map Slot.label ++ [(a.slot i).label]))) := by
  have hmarks : s.traffic.marks t = (below.map a.slot).reverse := by
    have hguarded := h.nested.guarded hstack
    rw [hi] at hguarded
    exact hguarded
  have hthread := h.nested.thread_eq hstack
  have hmarked : a.slot i ∈ s.traffic.marks (a.thread i) := by
    rw [hthread, hmarks]
    exact List.mem_reverse.2 hmem
  have hgo : (s.step a (.go t)).traffic = s.traffic.takeLock a i := by
    show (s.go a t).traffic = _
    rw [go, hstack]
    simp only [hi, Traffic.step]
  rw [hgo, Traffic.takeLock_of_mem hmarked, Traffic.phase_setPhase, hthread, hmarks]

end Locked

/-! ## A circle stays -/

/-- A thread that waits makes no call. -/
theorem stack_begin_of_waiting (hstack : s.stack t = i :: below)
    (hi : s.traffic.phase i = .waiting lock) (k : Nat) : (s.begin a k).stack t = s.stack t := by
  have hwants : s.wants i = none := by rw [wants, hi]
  unfold begin
  dsimp only
  by_cases ht : t = a.thread k
  · subst ht
    split
    · next hempty =>
      rw [hstack] at hempty
      cases hempty
    · next hcons =>
      obtain ⟨rfl, -⟩ := List.cons.inj (hstack.symm.trans hcons)
      rw [hwants, if_neg nofun]
    · rfl
  · split
    · exact Function.update_of_ne ht ..
    · split
      · exact Function.update_of_ne ht ..
      · rfl
    · rfl

/-- A thread that goes on leaves the stacks of all others alone. -/
theorem stack_go_of_ne {t₀ : Nat} (ht : t ≠ t₀) : (s.go a t₀).stack t = s.stack t := by
  unfold go
  split
  · rfl
  · split
    · unfold goLoad
      split
      · rfl
      · rfl
      · rfl
    · exact Function.update_of_ne ht ..
    · rfl

/-- A thread that waits stays where it is when it is its turn. -/
theorem go_of_waitsFor (h : s.WaitsFor a t t') : s.go a t = s := by
  obtain ⟨i, below, lock, j, hstack, hi, hholder, -⟩ := h
  have hstep : s.traffic.step a (.go i) = s.traffic := by
    simp only [Traffic.step, hi, Traffic.acquire, hholder]
  rw [go, hstack]
  simp only [hi, hstep]

namespace Locked

/-- Threads of which each waits for another of them go on waiting. -/
theorem waitsFor_step (h : s.Locked a loads) {threads : Set Nat}
    (hall : ∀ t ∈ threads, ∃ t' ∈ threads, s.WaitsFor a t t') (ht : t ∈ threads)
    (ht' : t' ∈ threads) (hwaits : s.WaitsFor a t t') (turn : Turn) :
    (s.step a turn).WaitsFor a t t' := by
  have ⟨i, below, lock, j, hstack, hi, hholder, hj⟩ := hwaits
  cases turn with
  | begin k =>
    refine ⟨i, below, lock, j, ?_, ?_, ?_, hj⟩
    · exact (stack_begin_of_waiting hstack hi k).trans hstack
    · exact (congrArg (fun traffic => traffic.phase i) (traffic_begin k)).trans hi
    · exact (congrArg (fun traffic => traffic.holder lock) (traffic_begin k)).trans hholder
  | clear => exact ⟨i, below, lock, j, hstack, hi, hholder, hj⟩
  | go t₀ =>
    by_cases hmem : t₀ ∈ threads
    -- a thread among them waits itself, so its turn changes nothing
    · obtain ⟨_, -, hwaiting⟩ := hall t₀ hmem
      have hgo : s.step a (.go t₀) = s := go_of_waitsFor hwaiting
      rw [hgo]
      exact hwaits
    · -- another thread moves, which has neither the call that waits nor the one that holds the lock
      have hne : t ≠ t₀ := fun heq => hmem (heq ▸ ht)
      have hstack' : (s.go a t₀).stack t = i :: below := (stack_go_of_ne hne).trans hstack
      cases hmover : s.stack t₀ with
      | nil =>
        have hgo : s.step a (.go t₀) = s := by
          show s.go a t₀ = s
          rw [go, hmover]
        rw [hgo]
        exact hwaits
      | cons k rest =>
        have hk := h.nested.thread_eq hmover
        rcases traffic_go (a := a) hmover with hclear | hcomes
        · refine ⟨i, below, lock, j, hstack', ?_, ?_, hj⟩
          · exact (congrArg (fun traffic => traffic.phase i) hclear).trans hi
          · exact (congrArg (fun traffic => traffic.holder lock) hclear).trans hholder
        · have hik : i ≠ k := by
            rintro rfl
            exact hne ((h.nested.thread_eq hstack).symm.trans hk)
          have hjk : j ≠ k := by
            rintro rfl
            exact hmem (hk ▸ hj ▸ ht')
          exact ⟨i, below, lock, j, hstack', (hcomes.phase_of_ne hik).trans hi,
            (hcomes.holder_of_ne rfl h.held hjk lock).2 hholder, hj⟩

/-- Threads that all wait for one another do so for ever. -/
theorem waitsFor_run (h : s.Locked a loads) {threads : Set Nat}
    (hall : ∀ t ∈ threads, ∃ t' ∈ threads, s.WaitsFor a t t') (turns : List Turn) :
    ∀ t ∈ threads, ∃ t' ∈ threads, (s.run a turns).WaitsFor a t t' := by
  induction turns generalizing s with
  | nil => exact hall
  | cons turn rest ih =>
    refine ih (h.step turn) fun t ht => ?_
    obtain ⟨t', ht', hwaits⟩ := hall t ht
    exact ⟨t', ht', h.waitsFor_step hall ht ht' hwaits turn⟩

end Locked

/-- However the calls of any number of threads interleave, threads wait for each other in a circle
only where the slots that they ask for depend on themselves; no thread waits for itself; and a call
for a slot that its own thread is building has no lock, and fails with the slots that are being
built. -/
theorem circle_asks_circle (a : Calls) (loads : String → Loading) (c : Cache) (turns : List Turn) :
    let s := (start a loads c).run a turns
    (∀ t i below, s.stack t = i :: below → Relation.TransGen (s.WaitsFor a) t t →
      Relation.TransGen (Slot.Asks loads) (a.slot i) (a.slot i)) ∧
    (∀ t, ¬s.WaitsFor a t t) ∧
    ∀ t i below, s.stack t = i :: below → a.slot i ∈ below.map a.slot →
      (s.traffic.phase i).lock? = none ∧
      (s.traffic.phase i = .missed → (s.step a (.go t)).traffic.phase i = .done (.error (.cycle
        ((below.map a.slot).reverse.map Slot.label ++ [(a.slot i).label])))) := by
  intro s
  have h : s.Locked a loads := (locked_start a loads c).run turns
  exact ⟨fun t i below hstack hcircle => h.asks_of_circle hstack hcircle,
    fun t => h.not_waitsFor_self,
    fun t i below hstack hmem =>
      ⟨h.lock?_of_mem_below hstack hmem, h.cycle_of_mem_below hstack hmem⟩⟩

/-- Two keys whose loads ask for each other, asked for by two threads: each thread comes to wait for
the other, and whatever happens then, it goes on waiting. -/
theorem two_threads_wait_forever :
    let loader : Loader :=
      ⟨[("a", [.named "b"]), ("b", [.named "a"])], fun key => .ok ⟨key, none⟩⟩
    let a : Calls :=
      ⟨fun i => if i = 0 ∨ i = 3 then ⟨.named, "a"⟩ else ⟨.named, "b"⟩, fun i => i % 2⟩
    let turns : List Turn :=
      [.begin 0, .go 0, .go 0, .go 0, .go 0, .begin 1, .go 1, .go 1, .go 1, .go 1,
        .begin 2, .go 0, .go 0, .begin 3, .go 1, .go 1]
    ∀ more, let s := (start a loader.loading {}).run a (turns ++ more)
      s.WaitsFor a 0 1 ∧ s.WaitsFor a 1 0 := by
  intro loader a turns more s
  have hends : let s := (start a loader.loading {}).run a turns
      s.stack 0 = [2, 0] ∧ s.traffic.phase 2 = .waiting 1 ∧ s.traffic.holder 1 = some 1 ∧
      s.stack 1 = [3, 1] ∧ s.traffic.phase 3 = .waiting 0 ∧ s.traffic.holder 0 = some 0 := by
    simp [turns, a, loader, run, start, step, begin, go, wants, Traffic.step, Traffic.start,
      Traffic.look, Traffic.takeLock, Traffic.acquire, Traffic.lookAgain, Traffic.setPhase,
      Phase.ofBuild, Cache.find?, Loader.loading, Loading.perform, Loading.asksFor, Function.update,
      List.lookup_cons]
  obtain ⟨hstack₀, hphase₀, hholder₀, hstack₁, hphase₁, hholder₁⟩ := hends
  have hall : ∀ t ∈ ({0, 1} : Set Nat), ∃ t' ∈ ({0, 1} : Set Nat),
      ((start a loader.loading {}).run a turns).WaitsFor a t t' := by
    rintro t (rfl | rfl)
    · exact ⟨1, .inr rfl, 2, [0], 1, 1, hstack₀, hphase₀, hholder₀, rfl⟩
    · exact ⟨0, .inl rfl, 3, [1], 0, 0, hstack₁, hphase₁, hholder₁, rfl⟩
  have hs : s = ((start a loader.loading {}).run a turns).run a more := List.foldl_append
  have hlocked := (locked_start a loader.loading {}).run turns
  have hforever := hlocked.waitsFor_run hall more
  have hself := hlocked.run more
  rw [← hs] at hforever hself
  -- neither waits for itself, so each waits for the other
  obtain ⟨t, ht | ht, h₀⟩ := hforever 0 (.inl rfl)
  · exact absurd (ht ▸ h₀) hself.not_waitsFor_self
  · obtain ⟨t', ht' | ht', h₁⟩ := hforever 1 (.inr rfl)
    · exact ⟨ht ▸ h₀, ht' ▸ h₁⟩
    · exact absurd (ht' ▸ h₁) hself.not_waitsFor_self

end Threads

end Mustache
