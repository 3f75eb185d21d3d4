import Mustache.Proofs.Cache.Traffic

/-!
# What a move of a call can do

`Traffic.Goes` says once what a move of a call can do: from which phase to which it goes, and what
changes of the things that calls share. With it, a lock that a call has is found to be one that was
made for its slot, and the holder of a lock to be the call that says so. What a thread has marked is
followed only for the slots that it builds around a call, whatever these are.
-/

namespace Mustache

/-- The lock that a call has. -/
def Phase.lock? : Phase → Option Nat
  | .waiting lock | .holding lock | .loading lock | .compiling lock _ | .built lock _
  | .leaving lock _ => some lock
  | .new | .missed | .dropping _ | .done _ => none

/-- The lock that a call holds. -/
def Phase.held? : Phase → Option Nat
  | .waiting _ => none
  | p => p.lock?

theorem Phase.held?_ofBuild (slot : Slot) (lock : Nat) :
    (Phase.ofBuild slot lock).held? = some lock := by
  unfold ofBuild
  cases slot.space with
  | inline => rfl
  | named => rfl

theorem Phase.lock?_ofBuild (slot : Slot) (lock : Nat) :
    (Phase.ofBuild slot lock).lock? = some lock := by
  unfold ofBuild
  cases slot.space with
  | inline => rfl
  | named => rfl

namespace Traffic

/-- What a move of a call does: the call goes from one phase to another, and what the calls share
changes to what is given last. -/
inductive Goes (a : Calls) (s : Traffic) (i : Nat) : Phase → Phase → Traffic → Prop
  | stays {q : Phase} : Goes a s i q q s
  | found {kept : Kept} (hfind : s.cache.find? (a.slot i) = some kept) :
      Goes a s i .new (.done (.ok kept)) s
  | missing (hfind : s.cache.find? (a.slot i) = none) : Goes a s i .new .missed s
  | cycle (hmarked : a.slot i ∈ s.marks (a.thread i)) :
      Goes a s i .missed (.done (.error
        (.cycle ((s.marks (a.thread i)).map Slot.label ++ [(a.slot i).label])))) s
  | tookLock {lock : Nat} (hfresh : a.slot i ∉ s.marks (a.thread i))
      (hlock : s.locks (a.slot i) = some lock) : Goes a s i .missed (.waiting lock) s
  | madeLock (hfresh : a.slot i ∉ s.marks (a.thread i)) (hlock : s.locks (a.slot i) = none) :
      Goes a s i .missed (.waiting s.nextLock)
        { s with
          locks := Function.update s.locks (a.slot i) (some s.nextLock)
          nextLock := s.nextLock + 1 }
  | acquired {lock : Nat} (hfree : s.holder lock = none) :
      Goes a s i (.waiting lock) (.holding lock)
        { s with holder := Function.update s.holder lock (some i) }
  | foundAgain {lock : Nat} {kept : Kept} (hfind : s.cache.find? (a.slot i) = some kept) :
      Goes a s i (.holding lock) (.leaving lock (.ok kept)) s
  | builds {lock : Nat} (hfind : s.cache.find? (a.slot i) = none) :
      Goes a s i (.holding lock) (.ofBuild (a.slot i) lock)
        { s with
          marks := Function.update s.marks (a.thread i) (s.marks (a.thread i) ++ [a.slot i])
          started := a.slot i :: s.started }
  | loaded {lock : Nat} {text : String} :
      Goes a s i (.loading lock) (.compiling lock text) s
  | notLoaded {lock : Nat} {fault : Fault} :
      Goes a s i (.loading lock) (.leaving lock (.error fault))
        { s.unmark a i with failed := a.slot i :: s.failed }
  | compiled {lock : Nat} {text : String} {t : Template}
      (ht : Template.compile text (a.slot i).name = .ok t) :
      Goes a s i (.compiling lock text) (.built lock t) (s.unmark a i)
  | notCompiled {lock : Nat} {text : String} {e : SyntaxError}
      (he : Template.compile text (a.slot i).name = .error e) :
      Goes a s i (.compiling lock text) (.leaving lock (.error (.malformed e)))
        { s.unmark a i with failed := a.slot i :: s.failed }
  | installed {lock : Nat} {t : Template} :
      Goes a s i (.built lock t) (.leaving lock (.ok (s.cache.install (a.slot i) t).1))
        { s with cache := (s.cache.install (a.slot i) t).2 }
  | released {lock : Nat} {result : Except Fault Kept} :
      Goes a s i (.leaving lock result) (.dropping result)
        { s with holder := Function.update s.holder lock none }
  | dropped {result : Except Fault Kept} :
      Goes a s i (.dropping result) (.done result)
        { s with locks := Function.update s.locks (a.slot i) none }

variable {a : Calls} {s s' : Traffic} {i : Nat} {p q : Phase}

/-- A slot that its thread is compiling already is a cycle. -/
theorem takeLock_of_mem (h : a.slot i ∈ s.marks (a.thread i)) :
    s.takeLock a i = s.setPhase i (.done (.error
      (.cycle ((s.marks (a.thread i)).map Slot.label ++ [(a.slot i).label])))) := if_pos h

theorem setPhase_of_phase (hi : s.phase i = q) : s.setPhase i q = s := by
  rw [setPhase, ← hi, Function.update_eq_self]

/-- Some move of a call that is in a phase leads to a state. -/
def Comes (a : Calls) (s : Traffic) (i : Nat) (q : Phase) (after : Traffic) : Prop :=
  ∃ p s', Goes a s i q p s' ∧ after = s'.setPhase i p

theorem comes_self (hi : s.phase i = q) : Comes a s i q s :=
  ⟨q, s, .stays, (setPhase_of_phase hi).symm⟩

theorem comes_look : Comes a s i .new (s.look a i) := by
  unfold look
  split
  · next hfind => exact ⟨_, _, .found hfind, rfl⟩
  · next hfind => exact ⟨_, _, .missing hfind, rfl⟩

/-- Taking a lock either finds a cycle or makes the call wait for the lock. -/
theorem comes_takeLock : Comes a s i .missed (s.takeLock a i) := by
  unfold takeLock
  dsimp only
  split
  · next hmarked => exact ⟨_, _, .cycle hmarked, rfl⟩
  · next hfresh =>
    split
    · next hlock => exact ⟨_, _, .tookLock hfresh hlock, rfl⟩
    · next hlock => exact ⟨_, _, .madeLock hfresh hlock, rfl⟩

/-- A lock is acquired if it is free; otherwise the call stays where it is. -/
theorem comes_acquire {lock : Nat} (hi : s.phase i = .waiting lock) :
    Comes a s i (.waiting lock) (s.acquire i lock) := by
  unfold acquire
  split
  · exact comes_self hi
  · next hfree => exact ⟨_, _, .acquired hfree, rfl⟩

/-- Under the lock a call finds what another one has made, or starts its own build. -/
theorem comes_lookAgain {lock : Nat} : Comes a s i (.holding lock) (s.lookAgain a i lock) := by
  unfold lookAgain
  split
  · next hfind => exact ⟨_, _, .foundAgain hfind, rfl⟩
  · next hfind => exact ⟨_, _, .builds hfind, rfl⟩

theorem comes_load {lock : Nat} (result : Except Fault String) :
    Comes a s i (.loading lock) (s.load a i lock result) := by
  cases result with
  | ok text => exact ⟨_, _, .loaded, rfl⟩
  | error fault => exact ⟨_, _, .notLoaded, rfl⟩

/-- Compiling ends in a template or in a fault. -/
theorem comes_compile {lock : Nat} {text : String} :
    Comes a s i (.compiling lock text) (s.compile a i lock text) := by
  unfold compile
  split
  · next he => exact ⟨_, _, .notCompiled he, rfl⟩
  · next ht => exact ⟨_, _, .compiled ht, rfl⟩

/-- A call that goes on does what its phase has it do. -/
theorem comes_go (hi : s.phase i = q) : Comes a s i q (s.step a (.go i)) := by
  unfold step
  dsimp only
  rw [hi]
  cases q with
  | new => exact comes_look
  | missed => exact comes_takeLock
  | waiting lock => exact comes_acquire hi
  | holding lock => exact comes_lookAgain
  | loading lock => exact comes_self hi
  | compiling lock text => exact comes_compile
  | built lock t => exact ⟨_, _, .installed, rfl⟩
  | leaving lock result => exact ⟨_, _, .released, rfl⟩
  | dropping result => exact ⟨_, _, .dropped, rfl⟩
  | done result => exact comes_self hi

/-- A call whose text is there goes on from its load. -/
theorem comes_step_load {lock : Nat} (hi : s.phase i = .loading lock)
    (result : Except Fault String) : Comes a s i (.loading lock) (s.step a (.load i result)) := by
  unfold step
  dsimp only
  rw [hi]
  exact comes_load result

/-! ## Locks -/

namespace Goes

theorem phase_eq (h : Goes a s i q p s') : s'.phase = s.phase := by
  cases h with
  | _ => rfl

/-- Locks are numbered upwards and no number is given twice. -/
theorem nextLock_le (h : Goes a s i q p s') : s.nextLock ≤ s'.nextLock := by
  cases h with
  | madeLock => exact Nat.le_succ s.nextLock
  | _ => exact Nat.le_refl s.nextLock

/-- A lock in the table was there before, or is new and for the slot of the call. -/
theorem locks_of_some (h : Goes a s i q p s') {slot : Slot} {lock : Nat}
    (hlock : s'.locks slot = some lock) :
    s.locks slot = some lock ∨ slot = a.slot i ∧ lock = s.nextLock ∧ lock < s'.nextLock := by
  cases h with
  | madeLock =>
    have hlock : Function.update s.locks (a.slot i) (some s.nextLock) slot = some lock := hlock
    by_cases hslot : slot = a.slot i
    · rw [hslot, Function.update_self] at hlock
      obtain rfl := Option.some.inj hlock
      exact .inr ⟨hslot, rfl, Nat.lt_succ_self s.nextLock⟩
    · rw [Function.update_of_ne hslot] at hlock
      exact .inl hlock
  | dropped =>
    have hlock : Function.update s.locks (a.slot i) none slot = some lock := hlock
    by_cases hslot : slot = a.slot i
    · rw [hslot, Function.update_self] at hlock
      cases hlock
    · rw [Function.update_of_ne hslot] at hlock
      exact .inl hlock
  | _ => exact .inl hlock

/-- The lock that a call has is one that it had before, or the one in the table, or a new one. -/
theorem lock?_of_some (h : Goes a s i q p s') {lock : Nat} (hlock : p.lock? = some lock) :
    q.lock? = some lock ∨ s.locks (a.slot i) = some lock ∨
      lock = s.nextLock ∧ lock < s'.nextLock := by
  cases h with
  | tookLock hfresh htable =>
    rw [← Option.some.inj hlock]
    exact .inr (.inl htable)
  | madeLock =>
    rw [← Option.some.inj hlock]
    exact .inr (.inr ⟨rfl, Nat.lt_succ_self s.nextLock⟩)
  | builds =>
    rw [Phase.lock?_ofBuild] at hlock
    exact .inl hlock
  | found | missing | cycle | released | dropped => cases hlock
  | _ => exact .inl hlock

/-- A move of one call makes no difference to which locks another holds. -/
theorem holder_of_ne (h : Goes a s i q p s')
    (hq : ∀ lock, s.holder lock = some i ↔ q.held? = some lock) {j : Nat} (hj : j ≠ i)
    (lock : Nat) : s'.holder lock = some j ↔ s.holder lock = some j := by
  have hij : some i ≠ some j := fun heq => hj (Option.some.inj heq).symm
  cases h with
  | @acquired free hfree =>
    show Function.update s.holder free (some i) lock = some j ↔ _
    by_cases hlock : lock = free
    · subst hlock
      rw [Function.update_self, hfree]
      exact ⟨fun heq => absurd heq hij, nofun⟩
    · rw [Function.update_of_ne hlock]
  | @released held result =>
    show Function.update s.holder held none lock = some j ↔ _
    by_cases hlock : lock = held
    · subst hlock
      have hholder : s.holder lock = some i := (hq lock).2 rfl
      rw [Function.update_self, hholder]
      exact ⟨nofun, fun heq => absurd heq hij⟩
    · rw [Function.update_of_ne hlock]
  | _ => exact Iff.rfl

/-- After a move of a call it holds the lock that its phase says. -/
theorem holder_self (h : Goes a s i q p s')
    (hq : ∀ lock, s.holder lock = some i ↔ q.held? = some lock) (lock : Nat) :
    s'.holder lock = some i ↔ p.held? = some lock := by
  cases h with
  | @acquired free hfree =>
    show Function.update s.holder free (some i) lock = some i ↔ some free = some lock
    by_cases hlock : lock = free
    · subst hlock
      rw [Function.update_self]
      exact ⟨fun _ => rfl, fun _ => rfl⟩
    · rw [Function.update_of_ne hlock, hq lock]
      exact ⟨nofun, fun heq => absurd (Option.some.inj heq).symm hlock⟩
  | @released held result =>
    show Function.update s.holder held none lock = some i ↔ none = some lock
    by_cases hlock : lock = held
    · subst hlock
      rw [Function.update_self]
      exact ⟨nofun, nofun⟩
    · rw [Function.update_of_ne hlock, hq lock]
      exact ⟨fun heq => absurd (Option.some.inj heq).symm hlock, nofun⟩
  | builds =>
    rw [Phase.held?_ofBuild]
    exact hq lock
  | _ => exact hq lock

end Goes

/-- Each lock was made for one slot: those in the table, and those that calls have. -/
structure Numbered (a : Calls) (owner : Nat → Slot) (s : Traffic) : Prop where
  table : ∀ slot lock, s.locks slot = some lock → owner lock = slot ∧ lock < s.nextLock
  phase : ∀ i lock, (s.phase i).lock? = some lock → owner lock = a.slot i ∧ lock < s.nextLock

/-- The holders of locks are the calls that hold them. -/
def Held (s : Traffic) : Prop :=
  ∀ lock i, s.holder lock = some i ↔ (s.phase i).held? = some lock

/-- New locks go to the slot that asks for one, so every lock stays that of one slot. -/
theorem Numbered.comes {owner : Nat → Slot} {after : Traffic} (h : s.Numbered a owner)
    (hi : s.phase i = q) (hcomes : Comes a s i q after) : ∃ owner, after.Numbered a owner := by
  obtain ⟨p, s', hgoes, rfl⟩ := hcomes
  -- the number of the next lock has no owner yet, whether or not this move makes one
  have hkeep {slot : Slot} {lock : Nat} (hlock : owner lock = slot ∧ lock < s.nextLock) :
      Function.update owner s.nextLock (a.slot i) lock = slot ∧ lock < s'.nextLock := by
    rw [Function.update_of_ne (Nat.ne_of_lt hlock.2)]
    exact ⟨hlock.1, Nat.lt_of_lt_of_le hlock.2 hgoes.nextLock_le⟩
  refine ⟨Function.update owner s.nextLock (a.slot i), ?_, ?_⟩
  · intro slot lock hlock
    rcases hgoes.locks_of_some hlock with hold | ⟨rfl, rfl, hlt⟩
    · exact hkeep (h.table slot lock hold)
    · exact ⟨Function.update_self .., hlt⟩
  · intro j lock hlock
    by_cases hj : j = i
    · subst hj
      rw [phase_setPhase] at hlock
      rcases hgoes.lock?_of_some hlock with hold | htable | ⟨rfl, hlt⟩
      · exact hkeep (h.phase j lock (hi ▸ hold))
      · exact hkeep (h.table _ lock htable)
      · exact ⟨Function.update_self .., hlt⟩
    · rw [phase_setPhase_of_ne hj, hgoes.phase_eq] at hlock
      exact hkeep (h.phase j lock hlock)

theorem Comes.phase_of_ne {after : Traffic} (h : Comes a s i q after) {j : Nat} (hj : j ≠ i) :
    after.phase j = s.phase j := by
  obtain ⟨p, s', hgoes, rfl⟩ := h
  rw [phase_setPhase_of_ne hj, hgoes.phase_eq]

/-- Whatever a call does, the locks of the others stay with them. -/
theorem Comes.holder_of_ne {after : Traffic} (h : Comes a s i q after) (hi : s.phase i = q)
    (hheld : s.Held) {j : Nat} (hj : j ≠ i) (lock : Nat) :
    after.holder lock = some j ↔ s.holder lock = some j := by
  obtain ⟨p, s', hgoes, rfl⟩ := h
  exact hgoes.holder_of_ne (hi ▸ fun lock => hheld lock i) hj lock

/-- A call holds a lock exactly when its phase says so, and every move keeps this. -/
theorem Held.comes {after : Traffic} (h : s.Held) (hi : s.phase i = q)
    (hcomes : Comes a s i q after) : after.Held := by
  intro lock j
  by_cases hj : j = i
  · subst hj
    obtain ⟨p, s', hgoes, rfl⟩ := hcomes
    rw [phase_setPhase]
    exact hgoes.holder_self (hi ▸ fun lock => h lock j) lock
  · rw [hcomes.phase_of_ne hj]
    exact (hcomes.holder_of_ne hi h hj lock).trans (h lock j)

/-! ## Marks -/

/-- Where a call stands whose thread builds some slots around it, by what the thread has marked: a
call that has come past the check for cycles asks for none of these slots, and it is marked while it
is being built. -/
def Guarded (around : List Slot) (slot : Slot) (marks : List Slot) : Phase → Prop
  | .new | .missed | .done _ => marks = around
  | .waiting _ | .holding _ | .built _ _ | .leaving _ _ | .dropping _ =>
    marks = around ∧ slot ∉ around
  | .loading _ => marks = around ++ [slot] ∧ slot ∉ around ∧ slot.space = .named
  | .compiling _ _ => marks = around ++ [slot] ∧ slot ∉ around

namespace Goes

variable {around : List Slot}

/-- A call marks and unmarks nothing but in its own thread. -/
theorem marks_of_ne (h : Goes a s i q p s') {t : Nat} (ht : t ≠ a.thread i) :
    s'.marks t = s.marks t := by
  cases h with
  | builds | notLoaded | compiled | notCompiled => exact Function.update_of_ne ht ..
  | _ => rfl

/-- The mark of a slot that was not marked around it goes. -/
theorem marks_unmark (hmarks : s.marks (a.thread i) = around ++ [a.slot i])
    (hfresh : a.slot i ∉ around) : (s.unmark a i).marks (a.thread i) = around := by
  show Function.update s.marks (a.thread i) ((s.marks (a.thread i)).erase (a.slot i))
    (a.thread i) = _
  rw [Function.update_self, hmarks, List.erase_append_right _ hfresh, List.erase_cons_head,
    List.append_nil]

theorem guarded_ofBuild {marks : List Slot} {slot : Slot} (lock : Nat) (hfresh : slot ∉ around)
    (hmarks : marks = around ++ [slot]) : Guarded around slot marks (.ofBuild slot lock) := by
  unfold Phase.ofBuild
  cases hspace : slot.space with
  | inline => exact ⟨hmarks, hfresh⟩
  | named => exact ⟨hmarks, hfresh, hspace⟩

/-- Every move of a call marks its slot on the way in and unmarks it on the way out. -/
theorem guarded (h : Goes a s i q p s')
    (hq : Guarded around (a.slot i) (s.marks (a.thread i)) q) :
    Guarded around (a.slot i) (s'.marks (a.thread i)) p := by
  cases h with
  | stays => exact hq
  | found => exact hq
  | missing => exact hq
  | cycle => exact hq
  | tookLock hfresh => exact ⟨hq, hq ▸ hfresh⟩
  | madeLock hfresh => exact ⟨hq, hq ▸ hfresh⟩
  | acquired => exact hq
  | foundAgain => exact hq
  | builds =>
    refine guarded_ofBuild _ hq.2 ?_
    show Function.update s.marks (a.thread i) (s.marks (a.thread i) ++ [a.slot i]) (a.thread i) = _
    rw [Function.update_self, hq.1]
  | loaded => exact ⟨hq.1, hq.2.1⟩
  | notLoaded => exact ⟨marks_unmark hq.1 hq.2.1, hq.2.1⟩
  | compiled => exact ⟨marks_unmark hq.1 hq.2, hq.2⟩
  | notCompiled => exact ⟨marks_unmark hq.1 hq.2, hq.2⟩
  | installed => exact hq
  | released => exact hq
  | dropped => exact hq.1

end Goes

end Traffic

end Mustache
