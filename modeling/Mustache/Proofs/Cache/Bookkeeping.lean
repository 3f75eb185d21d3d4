import Mathlib.Data.List.Induction
import Mustache.Proofs.Cache.Reentry

/-!
# The bookkeeping of a cache

A thread asks a cache for one slot after the other and clears it now and then, and the loads that
this starts use the cache in turn. Between two demands nothing is marked and no lock is left, and
while loads are under way the marks and the locks are those of the slots being made, whatever the
loads do with the answers.

The cache marks a slot and creates its lock in one move, and takes both away in one, where loads
follow scripts. The marks and locks being the same slots is what makes this the same as doing each
at its own place.
-/

namespace Mustache

/-- What a thread wants of a cache. -/
inductive Demand
  | ask (slot : Slot)
  | clear

namespace Cache

/-- Asks a cache for a slot. -/
def ask (c : Cache) (s : Supplier) (slot : Slot) : Except Fault Kept × Cache :=
  Caching.getBy s.load s.depth slot c

/-- The cache after a demand. -/
def serve (s : Supplier) (c : Cache) : Demand → Cache
  | .ask slot => (c.ask s slot).2
  | .clear => c.clear

/-- A cache that was empty, after some demands. -/
def after (s : Supplier) (demands : List Demand) : Cache := demands.foldl (serve s) {}

end Cache

/-! ## Loads that follow scripts -/

namespace Loading

/-- Asks for a slot and goes on, unless a fault comes of it that is not passed over. -/
def asksFor (slot : Slot) (passes : Fault → Bool) (after : Loading) : Loading :=
  .asks slot fun
    | .ok _ => after
    | .error fault => if passes fault then after else .ends (.error fault)

/-- Makes a call and goes on. -/
def perform (call : CacheCall) (after : Loading) : Loading :=
  match call with
  | .named key => asksFor ⟨.named, key⟩ (fun _ => false) after
  | .inline text => asksFor ⟨.inline, text⟩ (fun _ => false) after
  | .clear => .clears after
  | .tryNamed key => asksFor ⟨.named, key⟩ Fault.isUserFault after

end Loading

namespace Loader

/-- What loading the text of a key does: the calls of its script, and then the loading itself. -/
def loading (loader : Loader) (key : String) : Loading :=
  ((loader.calls.lookup key).getD []).foldr Loading.perform (.ends (loader.load key))

theorem lookup_calls_of_not_mem {loader : Loader} {key : String}
    (hkey : key ∉ loader.calls.map Prod.fst) : loader.calls.lookup key = none :=
  List.lookup_eq_none_iff.2 fun _ hentry =>
    bne_iff_ne.2 fun heq => hkey (heq ▸ List.mem_map_of_mem hentry)

/-- The loading of a key that asks for no other one ends at once. -/
theorem ends_of_not_mem (loader : Loader) :
    ∀ key ∉ loader.calls.map Prod.fst, ∃ result, loader.loading key = .ends result := by
  intro key hkey
  exact ⟨loader.load key, by rw [loading, lookup_calls_of_not_mem hkey]; rfl⟩

/-- A loader with scripts, as one whose loads may use the cache. -/
def supplier (loader : Loader) : Supplier where
  keys := loader.calls.map Prod.fst
  load := loader.loading
  ends_of_not_mem := loader.ends_of_not_mem

/-- The loadings of a script nest at most one deeper than it has keys. -/
theorem supplier_depth (loader : Loader) : loader.supplier.depth = loader.calls.length + 1 := by
  rw [Supplier.depth, supplier, List.length_map]

end Loader

namespace Caching

/-- Asks for a slot, passing over some faults. -/
def askFor (get : Slot → Caching Kept) (slot : Slot) (passes : Fault → Bool) : Caching Unit :=
  fun c => match get slot c with
  | (.ok _, c) => (.ok (), c)
  | (.error fault, c) => if passes fault then (.ok (), c) else (.error fault, c)

/-- Makes a call on the cache, asking it by `get`. -/
def callBy (get : Slot → Caching Kept) : CacheCall → Caching Unit
  | .named key => askFor get ⟨.named, key⟩ fun _ => false
  | .inline text => askFor get ⟨.inline, text⟩ fun _ => false
  | .clear => modify Cache.clear
  | .tryNamed key => askFor get ⟨.named, key⟩ Fault.isUserFault

theorem bind_unit_eq_askFor (get : Slot → Caching Kept) (slot : Slot) :
    (do let _ ← get slot : Caching Unit) = askFor get slot fun _ => false := by
  funext c
  rw [bind_apply, askFor]
  rcases get slot c with ⟨fault | kept, c'⟩
  · rfl
  · rfl

/-- Getting a template looks among the kept ones, then among those being compiled, and makes it only
then. -/
theorem get_succ (loader : Loader) (n : Nat) (slot : Slot) (c : Cache) :
    get loader (n + 1) slot c =
      match c.find? slot with
      | some kept => (.ok kept, c)
      | none =>
        if slot ∈ c.compiling then
          (.error (.cycle (c.compiling.map Slot.label ++ [slot.label])), c)
        else
          buildMarked loader (callBy (get loader n)) slot c := by
  rw [get]
  have hcall : (fun
      | .named key => do let _ ← get loader n ⟨.named, key⟩
      | .inline text => do let _ ← get loader n ⟨.inline, text⟩
      | .clear => modify Cache.clear
      | .tryNamed key => askFor (get loader n) ⟨.named, key⟩ Fault.isUserFault :
        CacheCall → Caching Unit) = callBy (get loader n) := by
    funext call
    cases call with
    | named key => exact bind_unit_eq_askFor _ _
    | inline text => exact bind_unit_eq_askFor _ _
    | clear => rfl
    | tryNamed key => rfl
  rw [← hcall]
  rfl

/-- Loading a key asks for all that its script asks for, in order, and then for its text. -/
theorem load_apply (loader : Loader) (call : CacheCall → Caching Unit) (key : String) (c : Cache) :
    load loader call key c =
      match (((loader.calls.lookup key).getD []).forM call : Caching Unit)
        (c.tell (.asked key)) with
      | (.error fault, c) => (.error fault, c)
      | (.ok (), c) =>
        match loader.load key with
        | .error fault => (.error fault, c)
        | .ok loaded => (.ok loaded.text, c.tellPath key loaded.path) := by
  have htell : tell (.asked key) c = (.ok (), c.tell (.asked key)) := rfl
  rw [load, bind_apply, htell]
  dsimp only
  rw [bind_apply]
  rcases (((loader.calls.lookup key).getD []).forM call : Caching Unit) (c.tell (.asked key))
    with ⟨fault | _, c'⟩
  · rfl
  · cases loader.load key with
    | error fault => rfl
    | ok loaded =>
      obtain ⟨text, path⟩ := loaded
      cases path with
      | none => rfl
      | some path => rfl

end Caching

section
variable {loader : Loader} {c c' : Cache} {asked slot : Slot} {path : List Slot} {n : Nat}

open Caching Cache

section
variable (hget : ∀ path slot c', AskedFor loader.supplier c asked path slot c' →
  loader.supplier.depth - path.length = n → c'.Tidy →
  get loader n slot c' = getBy loader.loading n slot c')
include hget

/-- Asking for one slot in the middle of a loading is the same in both accounts of it. -/
theorem run_asksFor {passes : Fault → Bool} {after : Loading}
    (h : Underway loader.supplier c asked path (.asksFor slot passes after) c')
    (hn : loader.supplier.depth - path.length = n) (htidy : c'.Tidy) :
    match askFor (get loader n) slot passes c' with
    | (.error fault, c'') =>
      (Loading.asksFor slot passes after).run (getBy loader.loading n) c' = (.error fault, c'')
    | (.ok (), c'') =>
      (Loading.asksFor slot passes after).run (getBy loader.loading n) c' =
          after.run (getBy loader.loading n) c'' ∧
        Underway loader.supplier c asked path after c'' ∧ c''.Tidy := by
  have hask : AskedFor loader.supplier c asked path slot c' := .inr ⟨_, h⟩
  have hanswer := balanced_getBy hask hn htidy
  have hnext := h.answered
  rw [hn] at hnext
  unfold askFor Loading.asksFor
  rw [hget path slot c' hask hn htidy, Loading.run_asks]
  have hload : loader.supplier.load = loader.loading := rfl
  rw [hload] at hanswer hnext
  -- the answer is the same on both sides; it is passed on, passed over or raised
  generalize getBy loader.loading n slot c' = answer at hanswer hnext ⊢
  obtain ⟨result, c''⟩ := answer
  cases result with
  | ok kept => exact ⟨rfl, hnext, hanswer.tidy⟩
  | error fault =>
    cases hpasses : passes fault with
    | true =>
      simp only [hpasses, if_true] at hnext ⊢
      exact ⟨trivial, hnext, hanswer.tidy⟩
    | false =>
      simp only [hpasses]
      rfl

/-- Making a call and going on. -/
theorem run_perform {call : CacheCall} {after : Loading}
    (h : Underway loader.supplier c asked path (.perform call after) c')
    (hn : loader.supplier.depth - path.length = n) (htidy : c'.Tidy) :
    match callBy (get loader n) call c' with
    | (.error fault, c'') =>
      (Loading.perform call after).run (getBy loader.loading n) c' = (.error fault, c'')
    | (.ok (), c'') =>
      (Loading.perform call after).run (getBy loader.loading n) c' =
          after.run (getBy loader.loading n) c'' ∧
        Underway loader.supplier c asked path after c'' ∧ c''.Tidy := by
  cases call with
  | named key => exact run_asksFor hget h hn htidy
  | inline text => exact run_asksFor hget h hn htidy
  | clear =>
    exact ⟨rfl, h.cleared, htidy.clear⟩
  | tryNamed key => exact run_asksFor hget h hn htidy

/-- Making the calls of a script one after the other is what a load that follows it does. -/
theorem run_script {calls : List CacheCall} {result : Except Fault Loaded}
    (h : Underway loader.supplier c asked path (calls.foldr Loading.perform (.ends result)) c')
    (hn : loader.supplier.depth - path.length = n) (htidy : c'.Tidy) :
    (calls.foldr Loading.perform (.ends result)).run (getBy loader.loading n) c' =
      match (calls.forM (callBy (get loader n)) : Caching Unit) c' with
      | (.error fault, c'') => (.error fault, c'')
      | (.ok (), c'') => (result, c'') := by
  -- after each call both sides have the same cache, in which the rest of the load is under way
  induction calls generalizing c' with
  | nil => rfl
  | cons call rest ih =>
    have hcall := run_perform hget h hn htidy
    have hforM : ((call :: rest).forM (callBy (get loader n)) : Caching Unit)
        = callBy (get loader n) call >>= fun _ => rest.forM (callBy (get loader n)) := rfl
    rw [hforM, bind_apply, List.foldr_cons]
    generalize callBy (get loader n) call c' = answer at hcall ⊢
    obtain ⟨fault | _, c''⟩ := answer
    · exact hcall
    · obtain ⟨hrun, hrest, htidy⟩ := hcall
      rw [hrun]
      exact ih hrest htidy

/-- Making a template after the calls of a script is making it by a load that follows the script. -/
theorem build_eq_make (h : AskedFor loader.supplier c asked path slot c')
    (hn : loader.supplier.depth - (path ++ [slot]).length = n) (hfind : c'.find? slot = none)
    (hfresh : slot ∉ c'.compiling) (htidy : c'.Tidy) :
    build loader (callBy (get loader n)) slot ((c'.takeLock slot).mark slot) =
      make loader.loading (getBy loader.loading n) slot ((c'.takeLock slot).mark slot) := by
  obtain ⟨space, key⟩ := slot
  cases space with
  | inline => rfl
  | named =>
    -- the calls of the script bring the cache to where the load finds it
    have hrun := run_script hget (h.enter hfind hfresh) hn ((htidy.start hfind hfresh).tell _)
    have hmake : make loader.loading (getBy loader.loading n) ⟨.named, key⟩
          ((c'.takeLock ⟨.named, key⟩).mark ⟨.named, key⟩)
        = compileLoaded key
          ((loader.loading key).run (getBy loader.loading n) (c'.startLoad key)).1
          ((loader.loading key).run (getBy loader.loading n) (c'.startLoad key)).2 := rfl
    have hbuild : build loader (callBy (get loader n)) ⟨.named, key⟩
        = load loader (callBy (get loader n)) key >>= fun text => Caching.compile text key := rfl
    rw [hmake, Loader.loading, hrun, hbuild, bind_apply, load_apply]
    rw [startLoad]
    rcases (((loader.calls.lookup key).getD []).forM (callBy (get loader n)) : Caching Unit)
      (((c'.takeLock ⟨.named, key⟩).mark ⟨.named, key⟩).tell (.asked key)) with ⟨fault | _, c''⟩
    · rfl
    · cases loader.load key with
      | error fault => rfl
      | ok loaded => rfl

end

/-- Marking a slot and creating its lock in one move, and taking both away in one, is the same as
doing each at its own place. -/
theorem buildMarked_eq_locked {loader : Loader} {call : CacheCall → Caching Unit} {slot : Slot}
    {make : Caching Template} (htidy : c.Tidy) (hfind : c.find? slot = none)
    (hfresh : slot ∉ c.compiling)
    (hmake : build loader call slot ((c.takeLock slot).mark slot)
      = make ((c.takeLock slot).mark slot)) :
    buildMarked loader call slot c = locked slot (makeMissing slot make) c := by
  have henter : c.enter slot = (c.takeLock slot).mark slot := by
    rw [enter, takeLock, if_neg (htidy.not_mem_locks hfresh), mark]
  have hfind' : (c.takeLock slot).find? slot = none := hfind
  rw [buildMarked, henter, hmake, locked, makeMissing]
  simp only [hfind', marked]
  rcases make ((c.takeLock slot).mark slot) with ⟨fault | t, c'⟩
  · rfl
  · rfl

/-- Asking the cache of a loader with scripts, at any depth. -/
theorem get_eq_getBy (h : AskedFor loader.supplier c asked path slot c')
    (hn : loader.supplier.depth - path.length = n) (htidy : c'.Tidy) :
    get loader n slot c' = getBy loader.loading n slot c' := by
  -- what is asked for inside the load of the slot has one slot more around it, and one less depth
  induction n generalizing path slot c' with
  | zero =>
    unfold Caching.get getBy
    rfl
  | succ n ih =>
    rw [get_succ, getBy_succ]
    cases hfind : c'.find? slot with
    | some kept => rfl
    | none =>
      by_cases hmem : slot ∈ c'.compiling
      · simp only [if_pos hmem]
      · simp only [if_neg hmem]
        have hlength : loader.supplier.depth - (path ++ [slot]).length = n := by
          rw [List.length_append, List.length_singleton]
          omega
        exact buildMarked_eq_locked htidy hfind hmem
          (build_eq_make (fun _ _ _ h hn => ih h hn) h hlength hfind hmem htidy)

end

/-! ## One demand after another -/

namespace Cache

variable {s : Supplier} {c c' : Cache} {slot : Slot} {demands : List Demand}

/-- The template of a key was compiled from a text with which a load of the key ended, while one of
the demands was being served. -/
def FromLoad (s : Supplier) (demands : List Demand) (key : String) (t : Template) : Prop :=
  ∃ before asked rest path loaded c', demands = before ++ .ask asked :: rest ∧
    Underway s (after s before) asked (path ++ [⟨.named, key⟩]) (.ends (.ok loaded)) c' ∧
    Template.compile loaded.text key = .ok t

/-- The load of a key was under way with these notices, while one of the demands was being
served. -/
def EnteredIn (s : Supplier) (demands : List Demand) (key : String) (notices : List Notice) :
    Prop :=
  ∃ before asked rest, demands = before ++ .ask asked :: rest ∧
    Entered s (after s before) asked key notices

/-- A cache between two demands. -/
structure AtRest (s : Supplier) (demands : List Demand) (c : Cache) : Prop where
  compiling : c.compiling = []
  locks : c.locks = []
  fromLoad : ∀ key kept, c.find? ⟨.named, key⟩ = some kept → FromLoad s demands key kept.template
  entered : ∀ n key, c.notices[n]? = some (.asked key) →
    EnteredIn s demands key (c.notices.take (n + 1))

/-- A cache at rest has no lock taken and nothing marked. -/
theorem AtRest.tidy (h : AtRest s demands c) : c.Tidy := by
  refine ⟨?_, ?_, ?_⟩
  · rw [h.compiling]
    exact List.nodup_nil
  · rw [h.compiling, h.locks]
  · rw [h.compiling]
    exact fun _ hmem => absurd hmem List.not_mem_nil

theorem after_append (s : Supplier) (demands : List Demand) (r : Demand) :
    after s (demands ++ [r]) = serve s (after s demands) r := by
  rw [after, List.foldl_append]
  rfl

/-- What a load gave under some demands, it gave under more of them. -/
theorem FromLoad.append {key : String} {t : Template} (h : FromLoad s demands key t)
    (r : Demand) :
    FromLoad s (demands ++ [r]) key t := by
  obtain ⟨before, asked, rest, path, loaded, c', rfl, hload⟩ := h
  exact ⟨before, asked, rest ++ [r], path, loaded, c', by simp, hload⟩

theorem EnteredIn.append {key : String} {notices : List Notice}
    (h : EnteredIn s demands key notices) (r : Demand) :
    EnteredIn s (demands ++ [r]) key notices := by
  obtain ⟨before, asked, rest, rfl, hentered⟩ := h
  exact ⟨before, asked, rest ++ [r], by simp, hentered⟩

/-- What was entered before more was told. -/
theorem AtRest.entered_of_lt {notices : List Notice} (h : AtRest s demands c)
    (hnotices : c.notices <+: notices) {n : Nat} (hn : n < c.notices.length) {key : String}
    (hkey : notices[n]? = some (.asked key)) :
    EnteredIn s demands key (notices.take (n + 1)) := by
  obtain ⟨rest, rfl⟩ := hnotices
  rw [List.getElem?_append_left hn] at hkey
  rw [List.take_append_of_le_length hn]
  exact h.entered n key hkey

theorem AtRest.clear (h : AtRest s demands c) : AtRest s (demands ++ [.clear]) c.clear where
  compiling := h.compiling
  locks := h.locks
  fromLoad key kept hkept := by cases hkept
  entered n key hkey := by
    have hkey : (c.notices ++ [.cleared])[n]? = some (.asked key) := hkey
    by_cases hn : n < c.notices.length
    · exact (h.entered_of_lt (List.prefix_append _ _) hn hkey).append .clear
    · rw [List.getElem?_append_right (Nat.not_lt.1 hn), List.getElem?_singleton] at hkey
      split at hkey
      · cases hkey
      · cases hkey

theorem AtRest.ask (h : AtRest s demands (after s demands)) (slot : Slot) :
    AtRest s (demands ++ [.ask slot]) ((after s demands).ask s slot).2 := by
  have hask : Balanced s (after s demands) slot (after s demands)
      ((after s demands).ask s slot).2 :=
    balanced_getBy (.inl ⟨rfl, rfl, rfl⟩) rfl h.tidy
  have hcompiling := hask.compiling.trans h.compiling
  refine ⟨hcompiling, List.perm_nil.1 (hcompiling ▸ hask.tidy.locks), fun key kept hkept => ?_,
    fun n key hkey => ?_⟩
  · rcases hask.supply _ kept hkept with hbefore | ⟨path, loaded, c', hload⟩
    · exact (h.fromLoad key kept hbefore).append _
    · exact ⟨demands, slot, [], path, loaded, c', rfl, hload⟩
  · by_cases hn : n < (after s demands).notices.length
    · exact (h.entered_of_lt hask.told hn hkey).append _
    · exact ⟨demands, slot, [], rfl, hask.entered n key (Nat.not_lt.1 hn) hkey⟩

/-- After any demands the bookkeeping is exact: the induction over the demands. -/
theorem atRest_after (s : Supplier) (demands : List Demand) :
    AtRest s demands (after s demands) := by
  -- the last demand is taken off, since it is the earlier ones that the cache comes from
  induction demands using List.reverseRecOn with
  | nil =>
    exact ⟨rfl, rfl, fun _ _ hkept => (by cases hkept), fun _ _ hkey => (by cases hkey)⟩
  | append_singleton demands r ih =>
    rw [after_append]
    cases r with
    | clear => exact ih.clear
    | ask slot => exact ih.ask slot

/-- Whatever the loads do with the cache, its bookkeeping is exact. While a load is under way, the
slots being compiled are those that are being made inside each other, the outermost first and all
different; they have the locks and no templates. After every demand nothing is being compiled and
there are no locks, and every template of a name was compiled from a text with which a load of the
name ended. Every load that a source was asked for was under way in this sense when it began, and
was not stopped for its depth. -/
theorem bookkeeping_exact (s : Supplier) (demands : List Demand) :
    (∀ asked path load c', Underway s (after s demands) asked path load c' →
      c'.compiling = path ∧ path.Nodup ∧ c'.locks.Perm path ∧ ∀ slot ∈ path, c'.find? slot = none) ∧
    (∀ asked path slot next c', Underway s (after s demands) asked path (.asks slot next) c' →
      path.length < s.depth) ∧
    AtRest s demands (after s demands) ∧
    ∀ loader : Loader, s = loader.supplier → ∀ slot,
      (after s demands).get loader slot = (after s demands).ask s slot := by
  have hrest := atRest_after s demands
  refine ⟨fun asked path load c' h => ?_, fun asked path slot next c' h => h.length_lt hrest.tidy,
    hrest, ?_⟩
  · obtain ⟨htidy, hcompiling⟩ := h.tidy hrest.tidy
    rw [hrest.compiling, List.nil_append] at hcompiling
    exact hcompiling ▸ ⟨rfl, htidy.nodup, htidy.locks, htidy.absent⟩
  · rintro loader rfl slot
    have hdepth := loader.supplier_depth
    rw [Cache.get, ask, ← hdepth]
    exact get_eq_getBy (.inl ⟨rfl, rfl, rfl⟩) rfl hrest.tidy

end Cache

end Mustache
