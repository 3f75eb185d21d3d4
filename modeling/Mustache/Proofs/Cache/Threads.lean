import Mathlib.Data.List.Chain
import Mustache.Proofs.Cache.Moves
import Mustache.Proofs.Cache.Reentry

/-!
# Threads whose loads use the cache

Calls that threads make at the same time, where the load of a call may make further calls: these are
made by the same thread, and the load goes on when they return. So each thread has a stack of calls,
of which the innermost goes on while all the others are in their loads.

The slots that a thread has marked are those of the calls in its stack that build, the outermost
first, and a call that has come past the check for cycles asks for none of the slots that are built
around it.
-/

namespace Mustache

/-! ## Stacks of calls -/

/-- A load asks for a slot sooner or later, if the answers that it gets are the right ones. -/
inductive Loading.MayAsk : Loading → Slot → Prop
  | now {slot : Slot} {next : Except Fault Kept → Loading} : MayAsk (.asks slot next) slot
  | later {slot other : Slot} {next : Except Fault Kept → Loading} (answer : Except Fault Kept)
      (h : MayAsk (next answer) slot) : MayAsk (.asks other next) slot
  | cleared {slot : Slot} {next : Loading} (h : MayAsk next slot) : MayAsk (.clears next) slot

/-- Loading the text of a slot may ask for another slot. -/
def Slot.Asks (loads : String → Loading) (slot other : Slot) : Prop :=
  slot.space = .named ∧ (loads slot.key).MayAsk other

/-- A cache in use by threads. -/
structure Threads where
  traffic : Traffic
  /-- The calls of each thread that have not returned, the innermost first. -/
  stack : Nat → List Nat := fun _ => []
  /-- What the load of each call has left to do. -/
  rest : Nat → Loading

/-- What may happen next. -/
inductive Turn
  /-- A call is made, if its thread may make it. -/
  | begin (i : Nat)
  /-- The innermost call of a thread goes on. -/
  | go (t : Nat)
  /-- The cache is cleared. -/
  | clear

namespace Threads

/-- A cache before any call. -/
def start (a : Calls) (loads : String → Loading) (c : Cache) : Threads where
  traffic := .start c
  rest i := loads (a.slot i).key

variable (a : Calls) (s : Threads)

/-- The slot that the load of a call asks for. -/
def wants (i : Nat) : Option Slot :=
  match s.traffic.phase i, s.rest i with
  | .loading _, .asks slot _ => some slot
  | _, _ => none

/-- A call that wants a slot is in the middle of a load. -/
theorem loading_of_wants {s : Threads} {i : Nat} {slot : Slot} (h : s.wants i = some slot) :
    ∃ lock next, s.traffic.phase i = .loading lock ∧ s.rest i = .asks slot next := by
  unfold wants at h
  split at h
  · next lock slot' next hphase hrest =>
    obtain rfl := Option.some.inj h
    exact ⟨lock, next, hphase, hrest⟩
  · cases h

/-- A call is made by a thread that has no other, or by the load of the innermost one if it asks for
the slot. -/
def begin (i : Nat) : Threads :=
  let t := a.thread i
  let pushed := { s with stack := Function.update s.stack t (i :: s.stack t) }
  match s.traffic.phase i, s.stack t with
  | .new, [] => pushed
  | .new, k :: _ => if s.wants k = some (a.slot i) then pushed else s
  | _, _ => s

/-- The load of a call goes on, unless it waits for an answer. -/
def goLoad (i : Nat) : Threads :=
  match s.rest i with
  | .ends result =>
    { s with traffic := s.traffic.step a (.load i (result.map Loaded.text)) }
  | .asks _ _ => s
  | .clears next =>
    { s with
      traffic := s.traffic.step a .clear
      rest := Function.update s.rest i next }

/-- What loads have left to do when the innermost of some calls has its answer. -/
def answer (result : Except Fault Kept) : List Nat → Nat → Loading
  | [] => s.rest
  | k :: _ =>
    match s.rest k with
    | .asks _ next => Function.update s.rest k (next result)
    | _ => s.rest

/-- An answer takes away questions and brings none. -/
theorem mayAsk_of_answer {s : Threads} {result : Except Fault Kept} {below : List Nat} {i : Nat}
    {slot : Slot} (h : (s.answer result below i).MayAsk slot) : (s.rest i).MayAsk slot := by
  cases below with
  | nil => exact h
  | cons k below =>
    unfold answer at h
    cases hnext : s.rest k with
    | asks asked next =>
      simp only [hnext] at h
      by_cases hi : i = k
      · subst hi
        rw [Function.update_self] at h
        rw [hnext]
        exact .later result h
      · rw [Function.update_of_ne hi] at h
        exact h
    | ends | clears =>
      simp only [hnext] at h
      exact h

/-- A call returns to the load that made it, if one did. -/
def giveBack (t : Nat) (below : List Nat) (result : Except Fault Kept) : Threads :=
  { s with
    stack := Function.update s.stack t below
    rest := s.answer result below }

/-- The innermost call of a thread goes on. -/
def go (t : Nat) : Threads :=
  match s.stack t with
  | [] => s
  | i :: below =>
    match s.traffic.phase i with
    | .loading _ => s.goLoad a i
    | .done result => s.giveBack t below result
    | _ => { s with traffic := s.traffic.step a (.go i) }

/-- What comes of a turn. -/
def step : Turn → Threads
  | .begin i => s.begin a i
  | .go t => s.go a t
  | .clear => { s with traffic := s.traffic.step a .clear }

/-- Turns, one after the other. -/
def run (turns : List Turn) : Threads := turns.foldl (step a) s

/-! ## What the stacks are like -/

/-- The stack of a thread: its calls are made by the thread, all but the innermost are in their
loads, for different slots, each may be asked for by the load outside it, and what the thread has
marked goes with them. -/
structure Standing (loads : String → Loading) (t : Nat) : Prop where
  thread : ∀ i ∈ s.stack t, a.thread i = t
  loading : ∀ i ∈ (s.stack t).tail, ∃ lock, s.traffic.phase i = .loading lock
  nodup : ((s.stack t).tail.map a.slot).Nodup
  asks : (s.stack t).IsChain fun j i => (a.slot i).Asks loads (a.slot j)
  marks : match s.stack t with
    | [] => s.traffic.marks t = []
    | i :: below => Traffic.Guarded (below.map a.slot).reverse (a.slot i) (s.traffic.marks t)
        (s.traffic.phase i)

/-- What holds of threads that use a cache, whatever turns they take. -/
structure Nested (loads : String → Loading) : Prop where
  standing : ∀ t, s.Standing a loads t
  rest : ∀ i slot, (s.rest i).MayAsk slot → (loads (a.slot i).key).MayAsk slot
  /-- The calls that are in no stack have not begun or have returned. -/
  idle : ∀ i, i ∉ s.stack (a.thread i) →
    s.traffic.phase i = .new ∨ ∃ result, s.traffic.phase i = .done result

variable {a s} {s' : Threads} {loads : String → Loading} {t i k : Nat} {below : List Nat}

/-- The stack of a thread is as it was where its calls and its marks are. -/
theorem Standing.congr (h : s.Standing a loads t) (hstack : s'.stack t = s.stack t)
    (hphase : ∀ i ∈ s.stack t, s'.traffic.phase i = s.traffic.phase i)
    (hmarks : s'.traffic.marks t = s.traffic.marks t) : s'.Standing a loads t := by
  refine ⟨?_, ?_, ?_, ?_, ?_⟩
  · rw [hstack]
    exact h.thread
  · rw [hstack]
    intro i hi
    rw [hphase i (List.mem_of_mem_tail hi)]
    exact h.loading i hi
  · rw [hstack]
    exact h.nodup
  · rw [hstack]
    exact h.asks
  · rw [hstack, hmarks]
    have hmarks := h.marks
    cases hs : s.stack t with
    | nil =>
      rw [hs] at hmarks
      exact hmarks
    | cons i below =>
      rw [hs] at hmarks
      have hi : s'.traffic.phase i = s.traffic.phase i := hphase i (hs ▸ List.mem_cons_self)
      simp only [hi]
      exact hmarks

/-- Threads without calls stand in order. -/
theorem nested_start (a : Calls) (loads : String → Loading) (c : Cache) :
    (start a loads c).Nested a loads where
  standing _ :=
    { thread := fun _ hi => absurd hi List.not_mem_nil
      loading := fun _ hi => absurd hi List.not_mem_nil
      nodup := List.nodup_nil
      asks := List.isChain_nil
      marks := rfl }
  rest _ _ h := h
  idle _ _ := .inl rfl

namespace Nested

/-- The innermost call of a thread is built inside the slots of the calls below it. -/
theorem guarded (h : s.Nested a loads) (hstack : s.stack t = i :: below) :
    Traffic.Guarded (below.map a.slot).reverse (a.slot i) (s.traffic.marks t)
      (s.traffic.phase i) := by
  have hmarks := (h.standing t).marks
  rw [hstack] at hmarks
  exact hmarks

theorem thread_eq (h : s.Nested a loads) (hstack : s.stack t = i :: below) : a.thread i = t :=
  (h.standing t).thread i (hstack ▸ List.mem_cons_self)

/-- A call that is in its load is not made again inside it. -/
theorem not_mem_below (h : s.Nested a loads) (hstack : s.stack t = i :: below) : i ∉ below := by
  intro hmem
  have hguarded := h.guarded hstack
  obtain ⟨lock, hload⟩ := (h.standing t).loading i (hstack ▸ hmem)
  rw [hload] at hguarded
  exact hguarded.2.1 (List.mem_reverse.2 (List.mem_map_of_mem hmem))

/-- The innermost call of a thread moves. -/
theorem comes (h : s.Nested a loads) (hstack : s.stack t = i :: below) {q : Phase}
    (hi : s.traffic.phase i = q) {after : Traffic} (hafter : Traffic.Comes a s.traffic i q after) :
    { s with traffic := after }.Nested a loads := by
  -- the calls below it stay in their loads, so only what guards the innermost one is followed
  have hothers {j : Nat} (hj : j ≠ i) : after.phase j = s.traffic.phase j := hafter.phase_of_ne hj
  obtain ⟨p, traffic, hgoes, rfl⟩ := hafter
  have hthread := h.thread_eq hstack
  refine ⟨fun t' => ?_, h.rest, fun j hj => ?_⟩
  · by_cases ht : t' = t
    · subst ht
      have hbelow {k : Nat} (hk : k ∈ below) : k ≠ i :=
        fun heq => h.not_mem_below hstack (heq ▸ hk)
      have hstanding := h.standing t'
      refine ⟨hstanding.thread, fun k hk => ?_, hstanding.nodup, hstanding.asks, ?_⟩
      · obtain ⟨lock, hload⟩ := hstanding.loading k hk
        have hk : k ∈ below := by
          rw [hstack] at hk
          exact hk
        exact ⟨lock, (hothers (hbelow hk)).trans hload⟩
      · have hguarded := h.guarded hstack
        rw [← hthread, hi] at hguarded
        simp only [hstack, Traffic.phase_setPhase]
        have hafter := hgoes.guarded hguarded
        rw [hthread] at hafter
        exact hafter
    · have hne : t' ≠ a.thread i := hthread ▸ ht
      refine (h.standing t').congr rfl (fun j hj => hothers ?_) (hgoes.marks_of_ne hne)
      rintro rfl
      exact hne ((h.standing t').thread j hj).symm
  · have hne : j ≠ i := by
      rintro rfl
      rw [hthread, hstack] at hj
      exact hj List.mem_cons_self
    rw [hothers hne]
    exact h.idle j hj

/-- A load is answered, which leaves it less that it may ask for. -/
theorem rest_congr (h : s.Nested a loads) {rest : Nat → Loading} {traffic : Traffic}
    (hphase : traffic.phase = s.traffic.phase) (hmarks : traffic.marks = s.traffic.marks)
    (hrest : ∀ i slot, (rest i).MayAsk slot → (s.rest i).MayAsk slot) :
    { s with traffic, rest }.Nested a loads where
  standing t := (h.standing t).congr rfl (fun i _ => congrFun hphase i) (congrFun hmarks t)
  rest i slot hask := h.rest i slot (hrest i slot hask)
  idle i hi := by
    show traffic.phase i = .new ∨ ∃ result, traffic.phase i = .done result
    rw [hphase]
    exact h.idle i hi

theorem clear (h : s.Nested a loads) :
    { s with traffic := s.traffic.step a .clear }.Nested a loads :=
  h.rest_congr rfl rfl fun _ _ hask => hask

/-- A load that goes on asks for another slot or ends, and its thread stands as before. -/
theorem goLoad (h : s.Nested a loads) (hstack : s.stack t = i :: below) {lock : Nat}
    (hi : s.traffic.phase i = .loading lock) : (s.goLoad a i).Nested a loads := by
  unfold Threads.goLoad
  split
  · exact h.comes hstack hi (Traffic.comes_step_load hi _)
  · exact h
  · next next hnext =>
    refine h.rest_congr rfl rfl fun j slot hask => ?_
    by_cases hj : j = i
    · subst hj
      rw [Function.update_self] at hask
      rw [hnext]
      exact .cleared hask
    · rw [Function.update_of_ne hj] at hask
      exact hask

/-- The stacks of the other threads stay when that of one thread changes. -/
theorem standing_of_ne (h : s.Nested a loads) {stack : List Nat} {rest : Nat → Loading}
    {t' : Nat} (ht : t' ≠ t) :
    { s with stack := Function.update s.stack t stack, rest }.Standing a loads t' :=
  (h.standing t').congr (Function.update_of_ne ht ..) (fun _ _ => rfl) rfl

/-- Where all calls of a thread are in their loads, it has marked their slots, which are
different. -/
theorem marks_of_loading (h : s.Nested a loads)
    (hloading : ∀ k ∈ s.stack t, ∃ lock, s.traffic.phase k = .loading lock) :
    ((s.stack t).map a.slot).Nodup ∧ s.traffic.marks t = ((s.stack t).map a.slot).reverse := by
  cases hstack : s.stack t with
  | nil =>
    have hmarks := (h.standing t).marks
    rw [hstack] at hmarks
    exact ⟨List.nodup_nil, hmarks⟩
  | cons k below =>
    have hguarded := h.guarded hstack
    obtain ⟨lock, hload⟩ := hloading k (hstack ▸ List.mem_cons_self)
    rw [hload] at hguarded
    obtain ⟨hmarks, hfresh, -⟩ := hguarded
    have hnodup := (h.standing t).nodup
    rw [hstack, List.tail_cons] at hnodup
    rw [List.map_cons, List.reverse_cons]
    exact ⟨List.nodup_cons.2 ⟨fun hmem => hfresh (List.mem_reverse.2 hmem), hnodup⟩, hmarks⟩

/-- A call is made, by a thread whose calls are all in their loads; the innermost asks for its
slot. -/
theorem push (h : s.Nested a loads) (hnew : s.traffic.phase i = .new)
    (hloading : ∀ k ∈ s.stack (a.thread i), ∃ lock, s.traffic.phase k = .loading lock)
    (hasks : ∀ k ∈ (s.stack (a.thread i)).head?, (a.slot k).Asks loads (a.slot i)) :
    { s with stack := Function.update s.stack (a.thread i) (i :: s.stack (a.thread i)) }.Nested
      a loads := by
  obtain ⟨hnodup, hmarks⟩ := h.marks_of_loading hloading
  -- the stacks of the other threads are as they were
  refine ⟨fun t => ?_, h.rest, fun j hj => ?_⟩
  · by_cases ht : t = a.thread i
    · subst ht
      have hstanding := h.standing (a.thread i)
      refine ⟨?_, ?_, ?_, ?_, ?_⟩
      all_goals simp only [Function.update_self, List.tail_cons]
      · exact List.forall_mem_cons.2 ⟨rfl, hstanding.thread⟩
      · exact hloading
      · exact hnodup
      · exact List.isChain_cons.2 ⟨hasks, hstanding.asks⟩
      · rw [hnew]
        exact hmarks
    · exact h.standing_of_ne ht
  · refine h.idle j fun hmem => hj ?_
    show j ∈ Function.update s.stack (a.thread i) (i :: s.stack (a.thread i)) (a.thread j)
    by_cases ht : a.thread j = a.thread i
    · rw [ht, Function.update_self]
      exact List.mem_cons_of_mem i (ht ▸ hmem)
    · rw [Function.update_of_ne ht]
      exact hmem

/-- A call that begins goes on top of the one whose load asks for it. -/
theorem begin (h : s.Nested a loads) (i : Nat) : (s.begin a i).Nested a loads := by
  unfold Threads.begin
  dsimp only
  split
  · next hnew hstack =>
    refine h.push hnew ?_ ?_
    · rw [hstack]
      exact fun k hk => absurd hk List.not_mem_nil
    · rw [hstack]
      exact fun k hk => by cases hk
  -- the call below waits in its load for the slot of the new one
  · next k below hnew hstack =>
    split
    · next hwants =>
      obtain ⟨lock, next, hload, hrest⟩ := loading_of_wants hwants
      have hguarded := h.guarded hstack
      rw [hload] at hguarded
      refine h.push hnew ?_ ?_
      · rw [hstack]
        have hbelow := (h.standing (a.thread i)).loading
        rw [hstack] at hbelow
        exact List.forall_mem_cons.2 ⟨⟨lock, hload⟩, hbelow⟩
      · rw [hstack]
        rintro _ ⟨⟩
        exact ⟨hguarded.2.2, h.rest k _ (hrest ▸ .now)⟩
    · exact h
  · exact h

/-- An answer goes to the call below, whose load goes on from it. -/
theorem giveBack (h : s.Nested a loads) (hstack : s.stack t = i :: below)
    {result : Except Fault Kept} (hi : s.traffic.phase i = .done result) :
    (s.giveBack t below result).Nested a loads := by
  have hmarks := h.guarded hstack
  rw [hi] at hmarks
  have hstanding := h.standing t
  have hloading := hstanding.loading
  have hnodup := hstanding.nodup
  have hasks := hstanding.asks
  rw [hstack, List.tail_cons] at hloading hnodup
  rw [hstack] at hasks
  refine ⟨fun t' => ?_, fun j slot hask => ?_, fun j hj => ?_⟩
  · by_cases ht : t' = t
    · subst ht
      refine ⟨?_, ?_, ?_, ?_, ?_⟩
      all_goals simp only [Threads.giveBack, Function.update_self]
      · exact fun k hk => hstanding.thread k (hstack ▸ List.mem_cons_of_mem i hk)
      · exact fun k hk => hloading k (List.mem_of_mem_tail hk)
      · exact hnodup.sublist ((List.tail_sublist below).map a.slot)
      · exact hasks.tail
      · cases below with
        | nil => exact hmarks
        | cons k below =>
          -- the call that is now the innermost is in its load, so its slot is the last one marked
          obtain ⟨lock, hload⟩ := hloading k List.mem_cons_self
          rw [List.map_cons] at hnodup
          show Traffic.Guarded (below.map a.slot).reverse (a.slot k) (s.traffic.marks t')
            (s.traffic.phase k)
          rw [hload]
          refine ⟨?_, ?_, ?_⟩
          · rw [← List.reverse_cons, ← List.map_cons]
            exact hmarks
          · rw [List.mem_reverse]
            exact (List.nodup_cons.1 hnodup).1
          · exact (List.isChain_cons_cons.1 hasks).1.1
    · exact h.standing_of_ne ht
  · exact h.rest j slot (mayAsk_of_answer hask)
  · by_cases hji : j = i
    · exact .inr ⟨result, hji ▸ hi⟩
    · refine h.idle j fun hmem => hj ?_
      show j ∈ Function.update s.stack t below (a.thread j)
      by_cases ht : a.thread j = t
      · rw [ht, hstack] at hmem
        rw [ht, Function.update_self]
        exact (List.mem_cons.1 hmem).resolve_left hji
      · rw [Function.update_of_ne ht]
        exact hmem

/-- A thread that goes on keeps its calls nested. -/
theorem go (h : s.Nested a loads) (t : Nat) : (s.go a t).Nested a loads := by
  unfold Threads.go
  split
  · exact h
  · next i below hstack =>
    split
    · next hi => exact h.goLoad hstack hi
    · next hi => exact h.giveBack hstack hi
    · exact h.comes hstack rfl (Traffic.comes_go rfl)

/-- Every turn keeps the calls nested. -/
theorem step (h : s.Nested a loads) (turn : Turn) : (s.step a turn).Nested a loads := by
  cases turn with
  | begin i => exact h.begin i
  | go t => exact h.go t
  | clear => exact h.clear

theorem run (h : s.Nested a loads) (turns : List Turn) : (s.run a turns).Nested a loads := by
  induction turns generalizing s with
  | nil => exact h
  | cons turn rest ih => exact ih (h.step turn)

end Nested

end Threads

end Mustache
