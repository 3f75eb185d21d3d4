import Mathlib.Data.List.Basic
import Mustache.Proofs.Cache.Asking

/-!
# Loads that use the cache

Loading a text may ask the cache for other slots, clear it, and go on as the answers have it, faults
among them. `Loading` is what such a load does, and `Caching.getBy` is asking the cache when loads
do that: the lock of the slot is taken, the slot is looked up once more, it is marked while its
template is made, and each of these is undone at its own place, however the making ends.

Whatever a load does, the bookkeeping of the cache comes back to what it was. The induction is on
the depth to which templates may still be made inside each other, and inside it on the load. What
is kept goes by the states in which loads are under way, since the answers that a load gets decide
which other loads it starts.
-/

namespace Mustache

/-- What loading a text does: it ends with a text or a fault, it asks the cache for a slot and goes
on with the answer, or it clears the cache. -/
inductive Loading
  | ends (result : Except Fault Loaded)
  | asks (slot : Slot) (next : Except Fault Kept → Loading)
  | clears (next : Loading)

namespace Loading

/-- Loads a text, asking the cache by `get`. -/
def run (get : Slot → Caching Kept) : Loading → Caching Loaded
  | .ends result => fun c => (result, c)
  | .asks slot next => fun c => run get (next (get slot c).1) (get slot c).2
  | .clears next => fun c => run get next c.clear

theorem run_asks (get : Slot → Caching Kept) (slot : Slot) (next : Except Fault Kept → Loading)
    (c : Cache) :
    (Loading.asks slot next).run get c = (next (get slot c).1).run get (get slot c).2 := rfl

end Loading

/-- Where texts come from when loading them may use the cache. Only finitely many keys have loads
that do. -/
structure Supplier where
  keys : List String
  load : String → Loading
  ends_of_not_mem : ∀ key ∉ keys, ∃ result, load key = .ends result

/-- How many templates may be made inside each other. -/
def Supplier.depth (s : Supplier) : Nat := s.keys.length + 1

namespace Cache

/-- Puts a lock for a slot into the table, if there is none. -/
def takeLock (c : Cache) (slot : Slot) : Cache :=
  { c with locks := if slot ∈ c.locks then c.locks else slot :: c.locks }

/-- Drops the lock of a slot. -/
def dropLock (c : Cache) (slot : Slot) : Cache := { c with locks := c.locks.erase slot }

/-- Marks a slot as being compiled. -/
def mark (c : Cache) (slot : Slot) : Cache := { c with compiling := c.compiling ++ [slot] }

/-- Takes away the mark of a slot. -/
def unmark (c : Cache) (slot : Slot) : Cache := { c with compiling := c.compiling.erase slot }

/-- Tells from which path the text of a key was read, if from any. -/
def tellPath (c : Cache) (key : String) : Option String → Cache
  | none => c
  | some path => c.tell (.loaded key path)

/-- The cache when the loading of a key begins. -/
def startLoad (c : Cache) (key : String) : Cache :=
  ((c.takeLock ⟨.named, key⟩).mark ⟨.named, key⟩).tell (.asked key)

end Cache

namespace Caching

/-- Makes the template of a key whose load has ended. -/
def compileLoaded (key : String) : Except Fault Loaded → Caching Template
  | .error fault => fun c => (.error fault, c)
  | .ok loaded => fun c => compile loaded.text key (c.tellPath key loaded.path)

/-- Makes the template of a slot. -/
def make (loads : String → Loading) (get : Slot → Caching Kept) (slot : Slot) : Caching Template :=
  match slot.space with
  | .inline => compile slot.key ""
  | .named => fun c =>
    let (result, c) := (loads slot.key).run get (c.tell (.asked slot.key))
    compileLoaded slot.key result c

/-- Makes a template while its slot is marked. -/
def marked (slot : Slot) (make : Caching Template) : Caching Template := fun c =>
  let (result, c) := make (c.mark slot)
  (result, c.unmark slot)

/-- Makes the template of a slot and keeps it, unless the slot has one by now. -/
def makeMissing (slot : Slot) (make : Caching Template) : Caching Kept := fun c =>
  match c.find? slot with
  | some kept => (.ok kept, c)
  | none =>
    match marked slot make c with
    | (.error fault, c) => (.error fault, c)
    | (.ok t, c) =>
      let (kept, c) := c.install slot t
      (.ok kept, c.tell (.compiled slot.space kept.template.key kept.template.nodes.length))

/-- Uses the cache under the lock of a slot, which is dropped in the end. -/
def locked (slot : Slot) (use : Caching Kept) : Caching Kept := fun c =>
  let (result, c) := use (c.takeLock slot)
  (result, c.dropLock slot)

/-- The template of a slot, made if there is none; at most `depth` are made inside each other. -/
def getBy (loads : String → Loading) : Nat → Slot → Caching Kept
  | depth, slot => fun c =>
    match c.find? slot with
    | some kept => (.ok kept, c)
    | none =>
      if slot ∈ c.compiling then
        (.error (.cycle (c.compiling.map Slot.label ++ [slot.label])), c)
      else
        match depth with
        | 0 => (.error .exhausted, c)
        | depth + 1 => locked slot (makeMissing slot (make loads (getBy loads depth) slot)) c

/-- Getting a template with loadings of any kind, unfolded once. -/
theorem getBy_succ (loads : String → Loading) (n : Nat) (slot : Slot) (c : Cache) :
    getBy loads (n + 1) slot c =
      match c.find? slot with
      | some kept => (.ok kept, c)
      | none =>
        if slot ∈ c.compiling then
          (.error (.cycle (c.compiling.map Slot.label ++ [slot.label])), c)
        else
          locked slot (makeMissing slot (make loads (getBy loads n) slot)) c := by
  rw [getBy]

end Caching

/-! ## Loads that are under way -/

/-- Where a thread that asks the cache `c` for the slot `asked` may have come to: the slots that are
being made inside each other, the outermost first, what the load of the last of them has left to do,
and the cache. -/
inductive Underway (s : Supplier) (c : Cache) (asked : Slot) : List Slot → Loading → Cache → Prop
  | first {key : String} (hasked : asked = ⟨.named, key⟩) (hfind : c.find? ⟨.named, key⟩ = none)
      (hfresh : ⟨.named, key⟩ ∉ c.compiling) :
      Underway s c asked [⟨.named, key⟩] (s.load key) (c.startLoad key)
  | nested {path : List Slot} {key : String} {next : Except Fault Kept → Loading} {c' : Cache}
      (h : Underway s c asked path (.asks ⟨.named, key⟩ next) c')
      (hfind : c'.find? ⟨.named, key⟩ = none) (hfresh : ⟨.named, key⟩ ∉ c'.compiling) :
      Underway s c asked (path ++ [⟨.named, key⟩]) (s.load key) (c'.startLoad key)
  | answered {path : List Slot} {slot : Slot} {next : Except Fault Kept → Loading} {c' : Cache}
      (h : Underway s c asked path (.asks slot next) c') :
      Underway s c asked path (next (Caching.getBy s.load (s.depth - path.length) slot c').1)
        (Caching.getBy s.load (s.depth - path.length) slot c').2
  | cleared {path : List Slot} {next : Loading} {c' : Cache}
      (h : Underway s c asked path (.clears next) c') : Underway s c asked path next c'.clear

/-- A slot is asked for, by the thread itself or by the load that is under way. -/
def AskedFor (s : Supplier) (c : Cache) (asked : Slot) (path : List Slot) (slot : Slot)
    (c' : Cache) : Prop :=
  path = [] ∧ slot = asked ∧ c' = c ∨ ∃ next, Underway s c asked path (.asks slot next) c'

/-- A template that a slot may be given: that of the key itself in the first space, and in the
second that of a text with which a load of the key has ended. -/
def Supplied (s : Supplier) (c : Cache) (asked : Slot) (slot : Slot) (t : Template) : Prop :=
  match slot.space with
  | .inline => Template.compile slot.key "" = .ok t
  | .named => ∃ path loaded c', Underway s c asked (path ++ [slot]) (.ends (.ok loaded)) c' ∧
      Template.compile loaded.text slot.key = .ok t

/-- The load of a key is under way when these are the notices. -/
def Entered (s : Supplier) (c : Cache) (asked : Slot) (key : String) (notices : List Notice) :
    Prop :=
  ∃ path c', Underway s c asked (path ++ [⟨.named, key⟩]) (s.load key) c' ∧ c'.notices = notices

namespace Cache

/-- No slot is being compiled twice, those that are have a lock each and no template, and there are
no other locks. -/
structure Tidy (c : Cache) : Prop where
  nodup : c.compiling.Nodup
  locks : c.locks.Perm c.compiling
  absent : ∀ slot ∈ c.compiling, c.find? slot = none

/-- What a use of the cache comes to while it is asked for a slot: the bookkeeping is as before, the
templates that were not there before have been supplied, and each load that was told of was under
way just then. -/
structure Balanced (s : Supplier) (base : Cache) (asked : Slot) (c c' : Cache) : Prop where
  tidy : c'.Tidy
  compiling : c'.compiling = c.compiling
  supply : ∀ slot kept, c'.find? slot = some kept →
    c.find? slot = some kept ∨ Supplied s base asked slot kept.template
  told : c.notices <+: c'.notices
  entered : ∀ n key, c.notices.length ≤ n → c'.notices[n]? = some (.asked key) →
    Entered s base asked key (c'.notices.take (n + 1))

variable {s : Supplier} {base c c' c'' : Cache} {asked slot : Slot}

/-- What is not being compiled is not locked. -/
theorem Tidy.not_mem_locks (h : c.Tidy) (hfresh : slot ∉ c.compiling) : slot ∉ c.locks :=
  fun hmem => hfresh (h.locks.mem_iff.1 hmem)

theorem Tidy.tell (h : c.Tidy) (notice : Notice) : (c.tell notice).Tidy :=
  ⟨h.nodup, h.locks, h.absent⟩

/-- Clearing the templates leaves locks and marks as they are. -/
theorem Tidy.clear (h : c.Tidy) : c.clear.Tidy := ⟨h.nodup, h.locks, fun _ _ => rfl⟩

/-- A slot that is missing and not being compiled gets a lock and a mark. -/
theorem Tidy.start (h : c.Tidy) (hfind : c.find? slot = none) (hfresh : slot ∉ c.compiling) :
    ((c.takeLock slot).mark slot).Tidy := by
  have hnew : slot ∉ c.locks := h.not_mem_locks hfresh
  refine ⟨?_, ?_, ?_⟩
  · show (c.compiling ++ [slot]).Nodup
    exact List.nodup_append.2 ⟨h.nodup, List.pairwise_singleton _ slot,
      fun a ha b hb heq => hfresh (List.mem_singleton.1 hb ▸ heq ▸ ha)⟩
  · show (if slot ∈ c.locks then c.locks else slot :: c.locks).Perm (c.compiling ++ [slot])
    rw [if_neg hnew]
    exact (h.locks.cons slot).trans (List.perm_append_singleton slot c.compiling).symm
  · intro other hother
    rcases List.mem_append.1 hother with hmem | hmem
    · exact h.absent other hmem
    · rw [List.mem_singleton.1 hmem]
      exact hfind

namespace Balanced

theorem refl (h : c.Tidy) : Balanced s base asked c c where
  tidy := h
  compiling := rfl
  supply _ _ := .inl
  told := List.prefix_rfl
  entered n key hn hkey := by
    rw [List.getElem?_eq_none hn] at hkey
    cases hkey

theorem trans (h : Balanced s base asked c c') (h' : Balanced s base asked c' c'') :
    Balanced s base asked c c'' where
  tidy := h'.tidy
  compiling := h'.compiling.trans h.compiling
  supply slot kept hkept := by
    rcases h'.supply slot kept hkept with hbefore | hsupply
    · exact h.supply slot kept hbefore
    · exact .inr hsupply
  told := h.told.trans h'.told
  entered n key hn hkey := by
    obtain ⟨rest, hrest⟩ := h'.told
    by_cases hlt : n < c'.notices.length
    · rw [← hrest, List.getElem?_append_left hlt] at hkey
      rw [← hrest, List.take_append_of_le_length hlt]
      exact h.entered n key hn hkey
    · exact h'.entered n key (Nat.not_lt.1 hlt) hkey

/-- Telling something keeps the balance if, when it is that a load is entered, it is. -/
theorem tell (h : Balanced s base asked c c') {notice : Notice}
    (hentered : ∀ key, notice = .asked key → Entered s base asked key (c'.notices ++ [notice])) :
    Balanced s base asked c (c'.tell notice) := by
  refine h.trans ⟨h.tidy.tell notice, rfl, fun _ _ => .inl,
    List.prefix_append _ _, fun n key hn hkey => ?_⟩
  have hkey : (c'.notices ++ [notice])[n]? = some (.asked key) := hkey
  rw [List.getElem?_append_right hn, List.getElem?_singleton] at hkey
  split at hkey
  · have htake : (c'.notices ++ [notice]).take (n + 1) = c'.notices ++ [notice] :=
      List.take_of_length_le (by simp only [List.length_append, List.length_singleton]; omega)
    show Entered s base asked key ((c'.notices ++ [notice]).take (n + 1))
    rw [htake]
    exact hentered key (Option.some.inj hkey)
  · cases hkey

/-- Notices that tell of no load may be told in between. -/
theorem tell_of_ne (h : Balanced s base asked c c') {notice : Notice}
    (hother : ∀ key, notice ≠ .asked key) : Balanced s base asked c (c'.tell notice) :=
  h.tell fun key heq => absurd heq (hother key)

theorem tellPath (h : Balanced s base asked c c') (key : String) (path : Option String) :
    Balanced s base asked c (c'.tellPath key path) := by
  cases path with
  | none => exact h
  | some path => exact h.tell_of_ne fun _ => Notice.noConfusion

theorem clear (h : Balanced s base asked c c') : Balanced s base asked c c'.clear := by
  have hempty : Balanced s base asked c { c' with entries := [] } :=
    ⟨⟨h.tidy.nodup, h.tidy.locks, fun _ _ => rfl⟩, h.compiling, fun _ _ hkept => (by cases hkept),
      h.told, h.entered⟩
  exact hempty.tell_of_ne fun _ => Notice.noConfusion

/-- The mark and the lock of a slot go when its making has come to its end. -/
theorem finish (h : Balanced s base asked ((c.takeLock slot).mark slot) c')
    (hfresh : slot ∉ c.compiling) : Balanced s base asked c ((c'.unmark slot).dropLock slot) := by
  have hcompiling : c'.compiling = c.compiling ++ [slot] := h.compiling
  have herase : c'.compiling.erase slot = c.compiling := by
    rw [hcompiling, List.erase_append_right _ hfresh, List.erase_cons_head, List.append_nil]
  refine ⟨⟨?_, h.tidy.locks.erase slot, fun other hother => ?_⟩, herase, h.supply, h.told,
    h.entered⟩
  · exact h.tidy.nodup.sublist List.erase_sublist
  · exact h.tidy.absent other (List.mem_of_mem_erase hother)

/-- A template that has been supplied is kept for a slot that is not being compiled. -/
theorem install (h : Balanced s base asked c c') (hfresh : slot ∉ c'.compiling) {t : Template}
    (ht : Supplied s base asked slot t) : Balanced s base asked c (c'.install slot t).2 := by
  cases hfind : c'.find? slot with
  | some kept =>
    rw [install_of_find? hfind]
    exact ⟨⟨h.tidy.nodup, h.tidy.locks, h.tidy.absent⟩, h.compiling, h.supply, h.told, h.entered⟩
  | none =>
    rw [install_of_find?_none hfind]
    refine ⟨⟨h.tidy.nodup, h.tidy.locks, fun other hother => ?_⟩, h.compiling,
      fun other kept hkept => ?_, h.told, h.entered⟩
    · have hne : other ≠ slot := fun heq => hfresh (heq ▸ hother)
      rw [find?_keep, if_neg hne]
      exact h.tidy.absent other hother
    · rw [find?_keep] at hkept
      split at hkept
      · next heq =>
        subst heq
        exact .inr (Option.some.inj hkept ▸ ht)
      · exact h.supply other kept hkept

end Balanced

end Cache

/-! ## What a load and an asking come to -/

section
variable {s : Supplier} {c c' : Cache} {asked slot : Slot} {path : List Slot} {n : Nat}

open Caching Cache

/-- A slot that is asked for and is missing has its load entered. -/
theorem AskedFor.enter {key : String} (h : AskedFor s c asked path ⟨.named, key⟩ c')
    (hfind : c'.find? ⟨.named, key⟩ = none) (hfresh : ⟨.named, key⟩ ∉ c'.compiling) :
    Underway s c asked (path ++ [⟨.named, key⟩]) (s.load key) (c'.startLoad key) := by
  rcases h with ⟨rfl, hasked, rfl⟩ | ⟨next, hunder⟩
  · exact .first hasked.symm hfind hfresh
  · exact .nested hunder hfind hfresh

/-- Compiling a text tells of no load and changes nothing else. -/
theorem Cache.Balanced.compile {base : Cache} (h : Balanced s base asked c c')
    (text name : String) :
    Balanced s base asked c (Caching.compile text name c').2 ∧
      ∀ t, (Caching.compile text name c').1 = .ok t → Template.compile text name = .ok t := by
  unfold Caching.compile Template.compile Template.parse
  cases Token.scan text.toList with
  | error e => exact ⟨h, fun t ht => by cases ht⟩
  | ok tokens =>
    have htokens : Balanced s base asked c (c'.tell (.tokenized tokens.length
        (Line.lastNumber (Line.split text.toList)))) :=
      h.tell_of_ne fun _ => Notice.noConfusion
    dsimp only
    cases Node.ofTokens tokens with
    | error e => exact ⟨htokens, fun t ht => by cases ht⟩
    | ok nodes =>
      refine ⟨htokens.tell_of_ne fun _ => Notice.noConfusion, fun t ht => ?_⟩
      rw [← Except.ok.inj ht]

/-- Compiling what a load gave is balanced, and its template is that of the text of the load. -/
theorem Cache.Balanced.compileLoaded {base : Cache} (h : Balanced s base asked c c') (key : String)
    (result : Except Fault Loaded) :
    Balanced s base asked c (Caching.compileLoaded key result c').2 ∧
      ∀ t, (Caching.compileLoaded key result c').1 = .ok t →
        ∃ loaded, result = .ok loaded ∧ Template.compile loaded.text key = .ok t := by
  cases result with
  | error fault => exact ⟨h, fun t ht => by cases ht⟩
  | ok loaded =>
    obtain ⟨hcompile, hmade⟩ := (h.tellPath key loaded.path).compile loaded.text key
    exact ⟨hcompile, fun t ht => ⟨loaded, rfl, hmade t ht⟩⟩

section
variable (hget : ∀ path slot c', AskedFor s c asked path slot c' → s.depth - path.length = n →
  c'.Tidy → Balanced s c asked c' (getBy s.load n slot c').2)
include hget

/-- A load keeps the balance, and is under way until it ends. -/
theorem balanced_run (hn : s.depth - path.length = n) {load : Loading}
    (h : Underway s c asked path load c') (htidy : c'.Tidy) :
    Balanced s c asked c' (load.run (getBy s.load n) c').2 ∧
      Underway s c asked path (.ends (load.run (getBy s.load n) c').1)
        (load.run (getBy s.load n) c').2 := by
  -- the slots around the load stay the same, and so does the depth at which it asks
  induction load generalizing c' with
  | ends result => exact ⟨.refl htidy, h⟩
  | asks slot next ih =>
    have hanswer := hget path slot c' (.inr ⟨next, h⟩) hn htidy
    have hnext := h.answered
    rw [hn] at hnext
    obtain ⟨hrest, hends⟩ := ih _ hnext hanswer.tidy
    exact ⟨hanswer.trans hrest, hends⟩
  | clears next ih =>
    have hclear : Balanced s c asked c' c'.clear := (Balanced.refl htidy).clear
    obtain ⟨hrest, hends⟩ := ih h.cleared hclear.tidy
    exact ⟨hclear.trans hrest, hends⟩

/-- Making the template of a slot that has its lock and its mark. -/
theorem balanced_make (h : AskedFor s c asked path slot c')
    (hn : s.depth - (path ++ [slot]).length = n) (hfind : c'.find? slot = none)
    (hfresh : slot ∉ c'.compiling) (htidy : c'.Tidy) :
    Balanced s c asked ((c'.takeLock slot).mark slot)
        (make s.load (getBy s.load n) slot ((c'.takeLock slot).mark slot)).2 ∧
      ∀ t, (make s.load (getBy s.load n) slot ((c'.takeLock slot).mark slot)).1 = .ok t →
        Supplied s c asked slot t := by
  have hstart : Balanced s c asked ((c'.takeLock slot).mark slot) _ :=
    .refl (htidy.start hfind hfresh)
  obtain ⟨space, key⟩ := slot
  cases space with
  | inline => exact hstart.compile key ""
  | named =>
    -- the script runs with the key marked, on a path that ends with it
    have hunder := h.enter hfind hfresh
    have hasked : Balanced s c asked ((c'.takeLock ⟨.named, key⟩).mark ⟨.named, key⟩)
        (c'.startLoad key) := by
      refine hstart.tell fun other heq => ?_
      obtain rfl := Notice.asked.inj heq
      exact ⟨path, _, hunder, rfl⟩
    obtain ⟨hrun, hends⟩ := balanced_run hget hn hunder hasked.tidy
    obtain ⟨hcompile, hmade⟩ := (hasked.trans hrun).compileLoaded key
      ((s.load key).run (getBy s.load n) (c'.startLoad key)).1
    refine ⟨hcompile, fun t ht => ?_⟩
    obtain ⟨loaded, hloaded, ht⟩ := hmade t ht
    rw [hloaded] at hends
    exact ⟨path, loaded, _, hends, ht⟩

end

/-- Asking keeps the balance, at any depth. -/
theorem balanced_getBy (h : AskedFor s c asked path slot c') (hn : s.depth - path.length = n)
    (htidy : c'.Tidy) : Balanced s c asked c' (getBy s.load n slot c').2 := by
  -- the load of the slot asks at the next smaller depth, and whatever it asks for is balanced there
  induction n generalizing path slot c' with
  | zero =>
    unfold getBy
    split
    · exact .refl htidy
    · split
      · exact .refl htidy
      · exact .refl htidy
  | succ n ih =>
    rw [getBy_succ]
    split
    · exact .refl htidy
    · next hfind =>
      split
      · exact .refl htidy
      · next hfresh =>
        have hlength : s.depth - (path ++ [slot]).length = n := by
          rw [List.length_append, List.length_singleton]
          omega
        obtain ⟨hmake, hmade⟩ := balanced_make (fun path slot c' h hn => ih h hn) h hlength
          hfind hfresh htidy
        have hfind' : (c'.takeLock slot).find? slot = none := hfind
        unfold locked makeMissing marked
        simp only [hfind']
        generalize make s.load (getBy s.load n) slot ((c'.takeLock slot).mark slot) = ended
          at hmake hmade ⊢
        obtain ⟨result, c₂⟩ := ended
        have hfinish := hmake.finish hfresh
        cases result with
        | error fault => exact hfinish
        | ok t =>
          -- the lock is dropped last, which makes no difference to what is kept
          have hunmarked : slot ∉ ((c₂.unmark slot).dropLock slot).compiling := by
            rw [hfinish.compiling]
            exact hfresh
          exact (hfinish.install hunmarked (hmade t rfl)).tell_of_ne fun _ => Notice.noConfusion

/-- While loads are under way, the slots that are being compiled are the ones from before and those
being made inside each other. -/
theorem Underway.tidy {load : Loading} (h : Underway s c asked path load c') (htidy : c.Tidy) :
    c'.Tidy ∧ c'.compiling = c.compiling ++ path := by
  induction h with
  | first hasked hfind hfresh =>
    exact ⟨(htidy.start hfind hfresh).tell _, rfl⟩
  | @nested path key next c' h hfind hfresh ih =>
    have hcompiling : c'.compiling ++ [⟨.named, key⟩]
        = c.compiling ++ (path ++ [⟨.named, key⟩]) := by
      rw [ih.2, List.append_assoc]
    exact ⟨(ih.1.start hfind hfresh).tell _, hcompiling⟩
  | @answered path slot next c' h ih =>
    have hanswer := balanced_getBy (.inr ⟨next, h⟩) rfl ih.1
    exact ⟨hanswer.tidy, hanswer.compiling.trans ih.2⟩
  | cleared h ih =>
    exact ⟨ih.1.clear, ih.2⟩

/-- Only keys whose loads use the cache have others loaded inside them. -/
theorem Underway.subset_keys {load : Loading} (h : Underway s c asked path load c') :
    path ⊆ s.keys.map (Slot.mk .named) ∨ ∃ result, load = .ends result := by
  have hstep {path : List Slot} (hpath : path ⊆ s.keys.map (Slot.mk .named)) (key : String) :
      path ++ [⟨.named, key⟩] ⊆ s.keys.map (Slot.mk .named) ∨
        ∃ result, s.load key = .ends result := by
    by_cases hkey : key ∈ s.keys
    · exact .inl (List.append_subset.2
        ⟨hpath, List.cons_subset.2 ⟨List.mem_map_of_mem hkey, List.nil_subset _⟩⟩)
    · exact .inr (s.ends_of_not_mem key hkey)
  induction h with
  | first => exact hstep (List.nil_subset _) _
  | nested h hfind hfresh ih =>
    rcases ih with hpath | ⟨result, heq⟩
    · exact hstep hpath _
    · cases heq
  | answered h ih =>
    rcases ih with hpath | ⟨result, heq⟩
    · exact .inl hpath
    · cases heq
  | cleared h ih =>
    rcases ih with hpath | ⟨result, heq⟩
    · exact .inl hpath
    · cases heq

/-- What a load asks for is looked for with depth to spare. -/
theorem Underway.length_lt {next : Except Fault Kept → Loading}
    (h : Underway s c asked path (.asks slot next) c') (htidy : c.Tidy) :
    path.length < s.depth := by
  obtain ⟨hc', hcompiling⟩ := h.tidy htidy
  have hnodup : path.Nodup := (List.nodup_append.1 (hcompiling ▸ hc'.nodup)).2.1
  -- the slots around a load that asks are different ones, and their keys are all among the few
  -- whose loads use the cache
  rcases h.subset_keys with hpath | ⟨result, heq⟩
  · have hle := hnodup.length_le_of_subset hpath
    rw [List.length_map] at hle
    exact Nat.lt_succ_of_le hle
  · cases heq

end

end Mustache
