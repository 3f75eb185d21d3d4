import Mustache.Proofs.Cache.Traffic

/-!
# Compiling once

However the calls of a cache interleave, those that ask for the same slot and get a template get the
same one, as long as the cache is not cleared: a template that is kept is never replaced. And as
long as no build of a slot fails, only one is started.

The second fact rests on the lock of the key. While a slot is pending, neither kept nor failed, its
lock stays in the table, since a call drops it only at its end; so all calls that have a lock for
the slot have that one, and whichever of them builds the slot holds it. A failure ends this: the
lock is dropped, and calls that have the old one and calls that make a new one may build side by
side.
-/

namespace Mustache

/-- Whether a call is building its slot and has not kept the template yet. -/
def Phase.isBuilding : Phase → Bool
  | .loading _ | .compiling _ _ | .built _ _ => true
  | _ => false

theorem Phase.isBuilding_ofBuild (slot : Slot) (lock : Nat) :
    (Phase.ofBuild slot lock).isBuilding = true := by
  unfold ofBuild
  cases slot.space with
  | inline => rfl
  | named => rfl

namespace Traffic

/-- A slot that has no template, and of which no build has failed. -/
def Pending (s : Traffic) (slot : Slot) : Prop := s.cache.find? slot = none ∧ slot ∉ s.failed

/-- A slot that has come to a result: the template is kept, or a build has failed. -/
def Settled (s : Traffic) (slot : Slot) : Except Fault Kept → Prop
  | .ok kept => s.cache.find? slot = some kept
  | .error _ => slot ∈ s.failed

/-- What holds while a call is in a phase. A call that has a lock for a pending slot has the one in
the table, and from when it has acquired the lock until it releases it, it is the holder. -/
def Suits (a : Calls) (s : Traffic) (i : Nat) : Phase → Prop
  | .new | .missed => True
  | .waiting lock => s.Pending (a.slot i) → s.locks (a.slot i) = some lock
  | .holding lock | .loading lock | .compiling lock _ | .built lock _ =>
    s.holder lock = some i ∧ (s.Pending (a.slot i) → s.locks (a.slot i) = some lock)
  | .leaving lock result => s.holder lock = some i ∧ s.Settled (a.slot i) result
  | .dropping result => s.Settled (a.slot i) result
  | .done result => ∀ kept, result = .ok kept → s.cache.find? (a.slot i) = some kept

/-- What holds of the calls of a cache that is never cleared. -/
structure Orderly (a : Calls) (s : Traffic) : Prop where
  suits : ∀ i, Suits a s i (s.phase i)
  /-- A build of a pending slot that was started is still going on. -/
  builder : ∀ slot ∈ s.started, s.Pending slot →
    ∃ i, a.slot i = slot ∧ (s.phase i).isBuilding = true
  once : ∀ slot, slot ∉ s.failed → s.started.count slot ≤ 1

variable {a : Calls} {s s' : Traffic} {i : Nat} {p q : Phase}

/-- A slot with a settled result is not pending. -/
theorem not_pending_of_settled {slot : Slot} {result : Except Fault Kept}
    (h : s.Settled slot result) : ¬s.Pending slot := by
  rintro ⟨hfind, hfailed⟩
  cases result with
  | ok kept =>
    rw [Settled, hfind] at h
    cases h
  | error fault => exact hfailed h

/-- A call that builds holds a lock. -/
theorem Suits.holder_of_isBuilding (h : Suits a s i p) (hp : p.isBuilding = true) :
    ∃ lock, s.holder lock = some i ∧
      (s.Pending (a.slot i) → s.locks (a.slot i) = some lock) := by
  cases p with
  | loading lock => exact ⟨lock, h⟩
  | compiling lock text => exact ⟨lock, h⟩
  | built lock t => exact ⟨lock, h⟩
  | _ => cases hp

/-- Who holds the lock of a slot may start its build. -/
theorem suits_ofBuild {lock : Nat} (h : Suits a s i (.holding lock)) :
    Suits a s i (.ofBuild (a.slot i) lock) := by
  unfold Phase.ofBuild
  cases (a.slot i).space with
  | inline => exact h
  | named => exact h

/-- What holds while a call is in a phase goes on holding when other locks change hands, templates
are kept, failures noted, and locks of other slots are put into the table or dropped. -/
theorem Suits.mono (h : Suits a s i p)
    (hholder : ∀ lock, s.holder lock = some i → s'.holder lock = some i)
    (hfind : ∀ kept, s.cache.find? (a.slot i) = some kept → s'.cache.find? (a.slot i) = some kept)
    (hfailed : a.slot i ∈ s.failed → a.slot i ∈ s'.failed)
    (hlocks : ∀ lock, s.locks (a.slot i) = some lock → s'.Pending (a.slot i) →
      s'.locks (a.slot i) = some lock) :
    Suits a s' i p := by
  -- a slot that is pending afterwards was pending before
  have hpending (hslot : s'.Pending (a.slot i)) : s.Pending (a.slot i) := by
    refine ⟨?_, fun hmem => hslot.2 (hfailed hmem)⟩
    cases hkept : s.cache.find? (a.slot i) with
    | none => rfl
    | some kept =>
      have hstays := hfind kept hkept
      rw [hslot.1] at hstays
      cases hstays
  have hlock (lock : Nat) (hold : s.Pending (a.slot i) → s.locks (a.slot i) = some lock)
      (hslot : s'.Pending (a.slot i)) : s'.locks (a.slot i) = some lock :=
    hlocks lock (hold (hpending hslot)) hslot
  have hsettled (result : Except Fault Kept) (hold : s.Settled (a.slot i) result) :
      s'.Settled (a.slot i) result := by
    cases result with
    | ok kept => exact hfind kept hold
    | error fault => exact hfailed hold
  cases p with
  | new => trivial
  | missed => trivial
  | waiting lock => exact hlock lock h
  | holding lock => exact ⟨hholder lock h.1, hlock lock h.2⟩
  | loading lock => exact ⟨hholder lock h.1, hlock lock h.2⟩
  | compiling lock text => exact ⟨hholder lock h.1, hlock lock h.2⟩
  | built lock t => exact ⟨hholder lock h.1, hlock lock h.2⟩
  | leaving lock result => exact ⟨hholder lock h.1, hsettled result h.2⟩
  | dropping result => exact hsettled result h
  | done result => exact fun kept hkept => hfind kept (h kept hkept)

/-- Without calls under way everything is in order. -/
theorem orderly_start (a : Calls) (c : Cache) : Orderly a (start c) where
  suits := fun _ => trivial
  builder := fun _ h => by cases h
  once := fun _ _ => Nat.zero_le 1

namespace Orderly

theorem suits_phase (h : Orderly a s) (hi : s.phase i = p) : Suits a s i p := hi ▸ h.suits i

/-- One call goes from a phase `q` to a phase `p`, and what the calls share changes from `s` to
`s'`. The other calls must not mind, the call must suit its new phase, and it must not leave a slot
pending that it was building. -/
theorem setPhase (h : Orderly a s) (hi : s.phase i = q) (hphase : s'.phase = s.phase)
    (hstarted : s'.started = s.started)
    (hothers : ∀ j, j ≠ i → Suits a s j (s.phase j) → Suits a s' j (s.phase j))
    (hself : Suits a s' i p)
    (hfind : ∀ slot, s'.cache.find? slot = none → s.cache.find? slot = none)
    (hfailed : ∀ slot ∈ s.failed, slot ∈ s'.failed)
    (hbuilder : q.isBuilding = true → p.isBuilding = true ∨ ¬s'.Pending (a.slot i)) :
    Orderly a (s'.setPhase i p) := by
  refine ⟨?_, ?_, ?_⟩
  · intro j
    -- only the call that moves has another phase
    by_cases hji : j = i
    · subst hji
      rw [phase_setPhase]
      exact hself
    · rw [phase_setPhase_of_ne hji, hphase]
      exact hothers j hji (h.suits j)
  · intro slot hslot hpending
    have hslot : slot ∈ s.started := hstarted ▸ hslot
    have hbefore : s.Pending slot :=
      ⟨hfind slot hpending.1, fun hmem => hpending.2 (hfailed slot hmem)⟩
    obtain ⟨j, rfl, hj⟩ := h.builder slot hslot hbefore
    -- the slot is still pending, so whoever was building it still is
    refine ⟨j, rfl, ?_⟩
    by_cases hji : j = i
    · subst hji
      rw [phase_setPhase]
      rw [hi] at hj
      exact (hbuilder hj).resolve_right (not_not_intro hpending)
    · rw [phase_setPhase_of_ne hji, hphase]
      exact hj
  · intro slot hslot
    show s'.started.count slot ≤ 1
    rw [hstarted]
    exact h.once slot fun hmem => hslot (hfailed slot hmem)

/-- One call goes from a phase `q` to a phase `p`, and what the calls share stays as it is. -/
theorem setPhase_self (h : Orderly a s) (hi : s.phase i = q) (hself : Suits a s i p)
    (hbuilder : q.isBuilding = true → p.isBuilding = true ∨ ¬s.Pending (a.slot i)) :
    Orderly a (s.setPhase i p) :=
  h.setPhase hi rfl rfl (fun _ _ hj => hj) hself (fun _ hnone => hnone) (fun _ hmem => hmem)
    hbuilder

/-! ## Moves -/

/-- A first look for the template keeps the order. -/
theorem look (h : Orderly a s) (hi : s.phase i = .new) : Orderly a (s.look a i) := by
  unfold Traffic.look
  cases hfind : s.cache.find? (a.slot i) with
  | none => exact h.setPhase_self hi trivial nofun
  | some kept =>
    refine h.setPhase_self hi ?_ nofun
    rintro kept' ⟨⟩
    exact hfind

/-- Taking a lock keeps the order: a pending slot has one lock for all its calls. -/
theorem takeLock (h : Orderly a s) (hi : s.phase i = .missed) : Orderly a (s.takeLock a i) := by
  unfold Traffic.takeLock
  dsimp only
  by_cases hmarked : a.slot i ∈ s.marks (a.thread i)
  · rw [if_pos hmarked]
    refine h.setPhase_self hi ?_ nofun
    rintro kept ⟨⟩
  · rw [if_neg hmarked]
    cases hlock : s.locks (a.slot i) with
    | some lock => exact h.setPhase_self hi (fun _ => hlock) nofun
    | none =>
      refine h.setPhase hi rfl rfl ?_ ?_ (fun _ hnone => hnone) (fun _ hmem => hmem) nofun
      · intro j _ hj
        refine hj.mono (fun _ hold => hold) (fun _ hold => hold) (fun hold => hold) ?_
        -- a call that has the lock in the table asks for another slot
        intro lock hold _
        have hne : a.slot j ≠ a.slot i := by
          intro heq
          rw [heq, hlock] at hold
          cases hold
        show Function.update s.locks (a.slot i) (some s.nextLock) (a.slot j) = some lock
        rw [Function.update_of_ne hne]
        exact hold
      · intro _
        exact Function.update_self ..

/-- A lock is acquired only when nobody holds it, so the one who builds stays the only one. -/
theorem acquire (h : Orderly a s) {lock : Nat} (hi : s.phase i = .waiting lock) :
    Orderly a (s.acquire i lock) := by
  have hself := h.suits_phase hi
  unfold Traffic.acquire
  cases hholder : s.holder lock with
  | some _ => exact h
  | none =>
    refine h.setPhase hi rfl rfl ?_ ?_ (fun _ hnone => hnone) (fun _ hmem => hmem) nofun
    · intro j _ hj
      refine hj.mono ?_ (fun _ hold => hold) (fun hold => hold) (fun _ hold _ => hold)
      -- the lock that was free is not one that another call holds
      intro lock' hold
      have hne : lock' ≠ lock := by
        rintro rfl
        rw [hholder] at hold
        cases hold
      show Function.update s.holder lock (some i) lock' = some j
      rw [Function.update_of_ne hne]
      exact hold
    · exact ⟨Function.update_self .., hself⟩

/-- A call that looks up a pending slot again is the first to build it: whoever built it before
would hold the lock that the call holds. -/
theorem not_mem_started (h : Orderly a s) {lock : Nat} (hi : s.phase i = .holding lock)
    (hpending : s.Pending (a.slot i)) : a.slot i ∉ s.started := by
  intro hmem
  obtain ⟨hholder, hlock⟩ := h.suits_phase hi
  obtain ⟨j, hj, hbuilding⟩ := h.builder _ hmem hpending
  obtain ⟨lock', hholder', hlock'⟩ := (h.suits j).holder_of_isBuilding hbuilding
  rw [hj] at hlock'
  have hsame : lock' = lock := Option.some.inj ((hlock' hpending).symm.trans (hlock hpending))
  rw [hsame, hholder] at hholder'
  have hij : i = j := Option.some.inj hholder'
  rw [← hij, hi] at hbuilding
  cases hbuilding

/-- The start of a build may be noted, if it is the first unless one has failed. -/
theorem note_started (h : Orderly a s) (hi : (s.phase i).isBuilding = true)
    (hfirst : a.slot i ∉ s.failed → a.slot i ∉ s.started) :
    Orderly a { s with started := a.slot i :: s.started } := by
  refine ⟨h.suits, ?_, ?_⟩
  · intro slot hslot hpending
    rcases List.mem_cons.1 hslot with rfl | hslot
    · exact ⟨i, rfl, hi⟩
    · exact h.builder slot hslot hpending
  · intro slot hslot
    show (a.slot i :: s.started).count slot ≤ 1
    by_cases heq : slot = a.slot i
    · subst heq
      have hcount : s.started.count (a.slot i) = 0 := List.count_eq_zero.2 (hfirst hslot)
      have hcons : (a.slot i :: s.started).count (a.slot i) = s.started.count (a.slot i) + 1 :=
        List.count_cons_self
      omega
    · rw [List.count_cons_of_ne (Ne.symm heq)]
      exact h.once slot hslot

/-- The second look, under the lock, lets a build start only if the slot is still pending. -/
theorem lookAgain (h : Orderly a s) {lock : Nat} (hi : s.phase i = .holding lock) :
    Orderly a (s.lookAgain a i lock) := by
  have hself := h.suits_phase hi
  unfold Traffic.lookAgain
  cases hfind : s.cache.find? (a.slot i) with
  | some kept => exact h.setPhase_self hi ⟨hself.1, hfind⟩ nofun
  | none =>
    have hfirst : a.slot i ∉ s.failed → a.slot i ∉ s.started :=
      fun hfailed => h.not_mem_started hi ⟨hfind, hfailed⟩
    have hbuilds : Orderly a (s.setPhase i (.ofBuild (a.slot i) lock)) :=
      h.setPhase_self hi (suits_ofBuild hself) nofun
    have hbuilding : ((s.setPhase i (.ofBuild (a.slot i) lock)).phase i).isBuilding = true := by
      rw [phase_setPhase]
      exact Phase.isBuilding_ofBuild (a.slot i) lock
    -- that the slot is marked, too, plays no part in what holds
    have hnoted := hbuilds.note_started hbuilding hfirst
    exact ⟨hnoted.suits, hnoted.builder, hnoted.once⟩

/-- A build fails, and the slot is no longer pending. -/
theorem fail (h : Orderly a s) {lock : Nat} (hi : s.phase i = q) (hholder : s.holder lock = some i)
    (fault : Fault) : Orderly a (s.fail a i lock fault) := by
  have hfailed : a.slot i ∈ a.slot i :: s.failed := List.mem_cons_self
  have hmore (slot : Slot) (hmem : slot ∈ s.failed) : slot ∈ a.slot i :: s.failed :=
    List.mem_cons_of_mem (a.slot i) hmem
  refine h.setPhase hi rfl rfl ?_ ⟨hholder, hfailed⟩ (fun _ hnone => hnone) hmore ?_
  · intro j _ hj
    exact hj.mono (fun _ hold => hold) (fun _ hold => hold) (hmore (a.slot j))
      (fun _ hold _ => hold)
  · intro _
    exact .inr fun hpending => hpending.2 hfailed

theorem load (h : Orderly a s) {lock : Nat} (hi : s.phase i = .loading lock)
    (result : Except Fault String) : Orderly a (s.load a i lock result) := by
  have hself := h.suits_phase hi
  cases result with
  | ok text => exact h.setPhase_self hi hself fun _ => .inl rfl
  | error fault => exact h.fail hi hself.1 fault

theorem compile (h : Orderly a s) {lock : Nat} {text : String}
    (hi : s.phase i = .compiling lock text) : Orderly a (s.compile a i lock text) := by
  have hself := h.suits_phase hi
  unfold Traffic.compile
  cases Template.compile text (a.slot i).name with
  | error e => exact h.fail hi hself.1 (.malformed e)
  | ok t =>
    have hunmarked : Orderly a (s.unmark a i) := ⟨h.suits, h.builder, h.once⟩
    exact hunmarked.setPhase_self hi hself fun _ => .inl rfl

/-- A template is kept; one that is there is not replaced. -/
theorem install (h : Orderly a s) {lock : Nat} {t : Template} (hi : s.phase i = .built lock t) :
    Orderly a (s.install a i lock t) := by
  have hself := h.suits_phase hi
  have hkept := Cache.find?_install_self s.cache (a.slot i) t
  have hstays {slot : Slot} {kept : Kept} (hslot : s.cache.find? slot = some kept) :
      (s.cache.install (a.slot i) t).2.find? slot = some kept :=
    Cache.find?_install_of_find? (a.slot i) t hslot
  refine h.setPhase hi rfl rfl ?_ ⟨hself.1, hkept⟩ ?_ (fun _ hmem => hmem) ?_
  · intro j _ hj
    exact hj.mono (fun _ hold => hold) (fun _ hold => hstays hold) (fun hold => hold)
      (fun _ hold _ => hold)
  · intro slot hnone
    cases hslot : s.cache.find? slot with
    | none => rfl
    | some kept =>
      have hsome := hstays hslot
      rw [hnone] at hsome
      cases hsome
  · intro _
    refine .inr fun hpending => ?_
    have hnone := hpending.1
    rw [hkept] at hnone
    cases hnone

/-- A lock is released with the slot settled. -/
theorem release (h : Orderly a s) {lock : Nat} {result : Except Fault Kept}
    (hi : s.phase i = .leaving lock result) : Orderly a (s.release i lock result) := by
  have hself := h.suits_phase hi
  refine h.setPhase hi rfl rfl ?_ hself.2 (fun _ hnone => hnone) (fun _ hmem => hmem) nofun
  intro j hji hj
  refine hj.mono ?_ (fun _ hold => hold) (fun hold => hold) (fun _ hold _ => hold)
  -- the lock that becomes free is not one that another call holds
  intro lock' hold
  have hne : lock' ≠ lock := by
    rintro rfl
    rw [hself.1] at hold
    exact hji (Option.some.inj hold.symm)
  show Function.update s.holder lock none lock' = some j
  rw [Function.update_of_ne hne]
  exact hold

theorem drop (h : Orderly a s) {result : Except Fault Kept} (hi : s.phase i = .dropping result) :
    Orderly a (s.drop a i result) := by
  have hself := h.suits_phase hi
  refine h.setPhase hi rfl rfl ?_ ?_ (fun _ hnone => hnone) (fun _ hmem => hmem) nofun
  · intro j _ hj
    refine hj.mono (fun _ hold => hold) (fun _ hold => hold) (fun hold => hold) ?_
    -- the slot of the lock that is dropped is settled, whoever put the lock into the table
    intro lock hold hpending
    have hne : a.slot j ≠ a.slot i := by
      intro heq
      rw [heq] at hpending
      exact not_pending_of_settled hself hpending
    show Function.update s.locks (a.slot i) none (a.slot j) = some lock
    rw [Function.update_of_ne hne]
    exact hold
  · rintro kept rfl
    exact hself

/-- Every move but a clear keeps the order. -/
theorem step (h : Orderly a s) {move : Move} (hclear : move ≠ .clear) :
    Orderly a (s.step a move) := by
  cases move with
  | go i =>
    unfold Traffic.step
    dsimp only
    cases hi : s.phase i with
    | new => exact h.look hi
    | missed => exact h.takeLock hi
    | waiting lock => exact h.acquire hi
    | holding lock => exact h.lookAgain hi
    | loading lock => exact h
    | compiling lock text => exact h.compile hi
    | built lock t => exact h.install hi
    | leaving lock result => exact h.release hi
    | dropping result => exact h.drop hi
    | done result => exact h
  | load i result =>
    unfold Traffic.step
    dsimp only
    split
    · next lock hi => exact h.load hi result
    · exact h
  | clear => exact absurd rfl hclear

/-- So does every run without a clear. -/
theorem run (h : Orderly a s) {moves : List Move} (hclear : .clear ∉ moves) :
    Orderly a (s.run a moves) := by
  induction moves generalizing s with
  | nil => exact h
  | cons move rest ih =>
    have hfirst : move ≠ .clear := fun heq => hclear (heq ▸ List.mem_cons_self)
    have hrest : Move.clear ∉ rest := fun hmem => hclear (List.mem_cons_of_mem move hmem)
    exact ih (h.step hfirst) hrest

end Orderly

/-- However the calls of a cache interleave, if the cache is never cleared, all calls that end with
a template for the same slot end with the same one, also where builds of the slot have failed; and
of a slot of which no build has failed at most one build was ever started. -/
theorem compile_once (a : Calls) (c : Cache) {moves : List Move} (hclear : .clear ∉ moves) :
    let s := (start c).run a moves
    (∀ i j kept kept', a.slot i = a.slot j → s.phase i = .done (.ok kept) →
      s.phase j = .done (.ok kept') → kept = kept') ∧
    ∀ slot, slot ∉ s.failed → s.started.count slot ≤ 1 := by
  have horderly := (orderly_start a c).run hclear
  refine ⟨?_, horderly.once⟩
  intro i j kept kept' hslot hi hj
  have hkept := horderly.suits_phase hi kept rfl
  have hkept' := horderly.suits_phase hj kept' rfl
  rw [hslot, hkept'] at hkept
  exact (Option.some.inj hkept).symm

/-- The lock of a key is replaced after a failed build, so that two calls build it at a time; the
first template that is kept is the answer to both. Another key is built once. -/
theorem compile_once_after_failure :
    let a : Calls := ⟨fun i => if i = 3 then ⟨.named, "b"⟩ else ⟨.named, "a"⟩, id⟩
    let moves : List Move :=
      [.go 0, .go 0, .go 0, .go 0, .go 1, .go 1, .go 3, .go 3, .go 3, .go 3,
        .load 0 (.error (.unavailable "a" "")), .go 0, .go 0, .go 2, .go 2, .go 2, .go 2,
        .go 1, .go 1,
        .load 1 (.ok ""), .load 2 (.ok ""), .go 2, .go 1, .go 1, .go 2, .go 1, .go 2, .go 1, .go 2]
    let s := (start {}).run a moves
    (∃ kept kept', s.phase 1 = .done (.ok kept) ∧ s.phase 2 = .done (.ok kept') ∧ kept = kept') ∧
      ⟨.named, "b"⟩ ∈ s.started ∧ s.started.count ⟨.named, "b"⟩ ≤ 1 := by
  intro a moves s
  have ht : Template.compile "" "a" = .ok ⟨"a", []⟩ := by with_unfolding_all rfl
  have hends : s.phase 1 = .done (.ok ⟨0, "a", []⟩) ∧ s.phase 2 = .done (.ok ⟨0, "a", []⟩) ∧
      ⟨.named, "b"⟩ ∈ s.started ∧ ⟨.named, "b"⟩ ∉ s.failed := by
    simp [s, moves, a, run, start, step, look, takeLock, acquire, lookAgain, load, compile, fail,
      unmark, install, release, drop, setPhase, Phase.ofBuild, Cache.find?, Cache.install,
      Cache.isCached, Slot.name, ht, Function.update]
  have hclear : Move.clear ∉ moves := by simp [moves]
  obtain ⟨h1, h2, hstarted, hfailed⟩ := hends
  have hs : s = (start {}).run a moves := rfl
  have hresult := compile_once a {} hclear
  rw [← hs] at hresult
  obtain ⟨hsame, honce⟩ := hresult
  clear_value s
  exact ⟨⟨_, _, h1, h2, hsame 1 2 _ _ rfl h1 h2⟩, hstarted, honce _ hfailed⟩

end Traffic

end Mustache
