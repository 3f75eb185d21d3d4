import Mathlib.Logic.Function.Iterate
import Mustache.Proofs.Cache.Bookkeeping
import Mustache.Proofs.Failing

/-!
# Loads, step by step

A thread asks the cache for a slot. If the text of a name has to be loaded for it, the calls of its
script are made one after the other, and a call that asks for another slot leaves the load waiting
for the answer. `Asker` is the thread between two steps: the loads that wait, what it is doing, and
the cache. Nothing bounds how deep the loads go into each other.

A load that makes calls is of a key that is not being loaded yet, and there are only so many keys
with scripts. So asking comes to an answer after finitely many steps, and the answer and the cache
are those of `Cache.get`. The loads that wait are the keys that are marked, at every step, and a
cycle that the cache reports consists of them and the key that was asked for.
-/

namespace Mustache

/-! ## The steps of a thread -/

/-- A load that waits for the answer to one of its calls. -/
structure PendingLoad where
  key : String
  /-- The calls behind that one. -/
  rest : List CacheCall
  /-- The faults of that call that the load goes on after. -/
  passes : Fault → Bool

/-- What a thread that uses the cache is doing. -/
inductive Errand
  | asks (slot : Slot)
  /-- Loads the text of a key, with these calls still to be made. -/
  | loads (key : String) (calls : List CacheCall)
  | answers (result : Except Fault Kept)

/-- A thread that uses the cache. -/
structure Asker where
  /-- The loads that wait, the innermost first. -/
  waiting : List PendingLoad
  doing : Errand
  cache : Cache

/-- The calls that loading the text of a key makes first. -/
def Loader.script (loader : Loader) (key : String) : List CacheCall :=
  (loader.calls.lookup key).getD []

namespace Caching

/-- The text of a key whose calls have been made. -/
def fetch (loader : Loader) (key : String) : Caching String := fun c =>
  match loader.load key with
  | .error fault => (.error fault, c)
  | .ok loaded => (.ok loaded.text, c.tellPath key loaded.path)

/-- Makes the template of a key whose calls have been made. -/
def compileFetched (loader : Loader) (key : String) : Caching Template := do
  let text ← fetch loader key
  compile text key

/-- Ends the making of a slot's template, which is kept if it has been made. -/
def settle (slot : Slot) : Except Fault Template × Cache → Except Fault Kept × Cache
  | (.error fault, c) => (.error fault, c.leave slot)
  | (.ok t, c) =>
    let (kept, c) := (c.leave slot).install slot t
    (.ok kept, c.tell (.compiled slot.space kept.template.key kept.template.nodes.length))

end Caching

namespace Asker

open Caching

/-- The loads that wait get an answer. -/
def answer (waiting : List PendingLoad) (a : Except Fault Kept × Cache) : Asker :=
  ⟨waiting, .answers a.1, a.2⟩

/-- Looks a slot up, and begins to make its template if it has none. -/
def ask (loader : Loader) (waiting : List PendingLoad) (slot : Slot) (c : Cache) : Asker :=
  match c.find? slot with
  | some kept => answer waiting (.ok kept, c)
  | none =>
    if slot ∈ c.compiling then
      answer waiting (.error (.cycle (c.compiling.map Slot.label ++ [slot.label])), c)
    else
      match slot.space with
      | .inline => answer waiting (settle slot (compile slot.key "" (c.enter slot)))
      | .named =>
        ⟨waiting, .loads slot.key (loader.script slot.key),
          (c.enter slot).tell (.asked slot.key)⟩

/-- Makes a call from the load of a key. -/
def call (waiting : List PendingLoad) (key : String) (rest : List CacheCall) (c : Cache) :
    CacheCall → Asker
  | .named other => ⟨⟨key, rest, fun _ => false⟩ :: waiting, .asks ⟨.named, other⟩, c⟩
  | .inline text => ⟨⟨key, rest, fun _ => false⟩ :: waiting, .asks ⟨.inline, text⟩, c⟩
  | .clear => ⟨waiting, .loads key rest, c.clear⟩
  | .tryNamed other => ⟨⟨key, rest, Fault.isUserFault⟩ :: waiting, .asks ⟨.named, other⟩, c⟩

/-- Goes on with a load that gets an answer, unless it ends in the fault that this is. -/
def resume (load : PendingLoad) (waiting : List PendingLoad) (c : Cache) :
    Except Fault Kept → Asker
  | .ok _ => ⟨waiting, .loads load.key load.rest, c⟩
  | .error fault =>
    if load.passes fault then ⟨waiting, .loads load.key load.rest, c⟩
    else answer waiting (settle ⟨.named, load.key⟩ (.error fault, c))

/-- One step. With an answer and no load that waits for it nothing is left to do. -/
def step (loader : Loader) (a : Asker) : Asker :=
  match a.doing, a.waiting with
  | .asks slot, waiting => ask loader waiting slot a.cache
  | .loads key [], waiting =>
    answer waiting (settle ⟨.named, key⟩ (compileFetched loader key a.cache))
  | .loads key (next :: rest), waiting => call waiting key rest a.cache next
  | .answers _, [] => a
  | .answers result, load :: waiting => resume load waiting a.cache result

/-- A thread comes to be in another state in some number of steps. -/
def Reaches (loader : Loader) (a b : Asker) : Prop := ∃ n, (step loader)^[n] a = b

variable {loader : Loader} {a b d : Asker}

theorem Reaches.refl (loader : Loader) (a : Asker) : Reaches loader a a := ⟨0, rfl⟩

theorem Reaches.trans (h : Reaches loader a b) (h' : Reaches loader b d) : Reaches loader a d := by
  obtain ⟨m, rfl⟩ := h
  obtain ⟨n, rfl⟩ := h'
  exact ⟨n + m, Function.iterate_add_apply _ n m a⟩

theorem Reaches.of_step (h : Reaches loader (a.step loader) b) : Reaches loader a b :=
  Reaches.trans ⟨1, rfl⟩ h

end Asker

/-! ## Marks stay as they are -/

namespace Caching

variable {α β : Type} {x : Caching α} {f : α → Caching β} {loader : Loader}

/-- A use of the cache that leaves the marks as they are. -/
def KeepsMarks (x : Caching α) : Prop := ∀ c, (x c).2.compiling = c.compiling

/-- Two uses in a row keep the marks if both do. -/
theorem KeepsMarks.bind (hx : KeepsMarks x) (hf : ∀ a, KeepsMarks (f a)) :
    KeepsMarks (x >>= f) := by
  intro c
  have hfirst := hx c
  rw [bind_apply]
  rcases hxc : x c with ⟨fault | a, c'⟩
  · rw [hxc] at hfirst
    exact hfirst
  · rw [hxc] at hfirst
    exact (hf a c').trans hfirst

theorem Tells.keepsMarks {result : Except Fault α} (h : Tells x result) : KeepsMarks x := by
  intro c
  obtain ⟨told, -, hx⟩ := h c
  rw [hx]

theorem keepsMarks_fetch (loader : Loader) (key : String) : KeepsMarks (fetch loader key) := by
  intro c
  unfold fetch
  cases loader.load key with
  | error fault => rfl
  | ok loaded =>
    obtain ⟨text, path⟩ := loaded
    cases path <;> rfl

theorem keepsMarks_forM {calls : List β} {g : β → Caching Unit} (hg : ∀ b, KeepsMarks (g b)) :
    KeepsMarks (calls.forM g) := by
  induction calls with
  | nil => exact fun _ => rfl
  | cons first rest ih => exact (hg first).bind fun _ => ih

section
variable {get : Slot → Caching Kept} (hget : ∀ slot, KeepsMarks (get slot))
include hget

/-- Asking for another slot keeps the marks as getting it does, whether its faults pass or not. -/
theorem keepsMarks_askFor (slot : Slot) (passes : Fault → Bool) :
    KeepsMarks (askFor get slot passes) := by
  intro c
  have hslot := hget slot c
  unfold askFor
  rcases hanswer : get slot c with ⟨fault | kept, c'⟩
  · rw [hanswer] at hslot
    dsimp only
    split
    · exact hslot
    · exact hslot
  · rw [hanswer] at hslot
    exact hslot

theorem keepsMarks_callBy (call : CacheCall) : KeepsMarks (callBy get call) := by
  cases call with
  | named key => exact keepsMarks_askFor hget _ _
  | inline text => exact keepsMarks_askFor hget _ _
  | clear => exact fun _ => rfl
  | tryNamed key => exact keepsMarks_askFor hget _ _

end

/-- Makes the template of a key when calls are left to be made. -/
def makeAfter (loader : Loader) (call : CacheCall → Caching Unit) (key : String)
    (calls : List CacheCall) : Caching Template := do
  calls.forM call
  compileFetched loader key

/-- A script is done call by call. -/
theorem makeAfter_cons (loader : Loader) (call : CacheCall → Caching Unit) (key : String)
    (first : CacheCall) (rest : List CacheCall) :
    makeAfter loader call key (first :: rest) =
      call first >>= fun _ => makeAfter loader call key rest := by
  have hforM : ((first :: rest).forM call : Caching Unit) =
      call first >>= fun _ => rest.forM call := rfl
  rw [makeAfter, hforM, bind_assoc]
  rfl

/-- Building under a key is telling of the load and going through its script. -/
theorem build_named (loader : Loader) (call : CacheCall → Caching Unit) (key : String) (c : Cache) :
    build loader call ⟨.named, key⟩ c =
      makeAfter loader call key (loader.script key) (c.tell (.asked key)) := by
  have hbuild : build loader call ⟨.named, key⟩ =
      load loader call key >>= fun text => compile text key := rfl
  rw [hbuild, makeAfter, bind_apply, bind_apply, load_apply, Loader.script]
  rcases (((loader.calls.lookup key).getD []).forM call : Caching Unit) (c.tell (.asked key))
    with ⟨fault | _, c'⟩
  · rfl
  · cases hload : loader.load key with
    | error fault => simp only [compileFetched, bind_apply, fetch, hload]
    | ok loaded => simp only [compileFetched, bind_apply, fetch, hload]

/-! ## Making a template -/

theorem keepsMarks_compile (text name : String) : KeepsMarks (compile text name) :=
  (tells_compile text name).keepsMarks

theorem keepsMarks_compileFetched (loader : Loader) (key : String) :
    KeepsMarks (compileFetched loader key) :=
  (keepsMarks_fetch loader key).bind fun text => keepsMarks_compile text key

/-- The mark of a slot that was not marked before goes when the making of its template ends. -/
theorem compiling_settle {slot : Slot} {marks : List Slot} (hfresh : slot ∉ marks)
    {a : Except Fault Template × Cache} (ha : a.2.compiling = marks ++ [slot]) :
    (settle slot a).2.compiling = marks := by
  have hleave : (a.2.leave slot).compiling = marks := by
    show a.2.compiling.erase slot = marks
    rw [ha, List.erase_append_right _ hfresh, List.erase_cons_head, List.append_nil]
  obtain ⟨result, c⟩ := a
  cases result with
  | error fault => exact hleave
  | ok t => exact hleave

/-- The marked build is the build with the mark set, settled. -/
theorem buildMarked_eq_settle (loader : Loader) (call : CacheCall → Caching Unit) (slot : Slot)
    (c : Cache) :
    buildMarked loader call slot c = settle slot (build loader call slot (c.enter slot)) := by
  unfold buildMarked
  rcases build loader call slot (c.enter slot) with ⟨fault | t, c'⟩
  · rfl
  · rfl

/-- A build leaves the marks as they are, whatever its calls do inside. -/
theorem keepsMarks_build {call : CacheCall → Caching Unit}
    (hcall : ∀ other, KeepsMarks (call other))
    (slot : Slot) : KeepsMarks (build loader call slot) := by
  obtain ⟨space, key⟩ := slot
  cases space with
  | inline => exact keepsMarks_compile key ""
  | named =>
    intro c
    rw [build_named]
    have hmake : KeepsMarks (makeAfter loader call key (loader.script key)) :=
      (keepsMarks_forM hcall).bind fun _ => keepsMarks_compileFetched loader key
    exact hmake (c.tell (.asked key))

/-- Asking leaves the marks as they are, at any depth. -/
theorem keepsMarks_get (loader : Loader) (n : Nat) (slot : Slot) :
    KeepsMarks (get loader n slot) := by
  induction n generalizing slot with
  | zero =>
    intro c
    unfold get
    split
    · rfl
    · split
      · rfl
      · rfl
  | succ n ih =>
    intro c
    rw [get_succ]
    split
    · rfl
    · split
      · rfl
      · next hfresh =>
        rw [buildMarked_eq_settle]
        apply compiling_settle hfresh
        exact keepsMarks_build (keepsMarks_callBy ih) slot (c.enter slot)

end Caching

/-! ## Coming to an answer -/

namespace Loader

variable {loader : Loader} {c : Cache} {key : String}

/-- The number of scripts whose keys are not marked. -/
def unmarked (loader : Loader) (c : Cache) : Nat :=
  (loader.calls.filter fun entry => ⟨.named, entry.1⟩ ∉ c.compiling).length

/-- There are no more unmarked keys than keys with a script. -/
theorem unmarked_le (loader : Loader) (c : Cache) : loader.unmarked c ≤ loader.calls.length :=
  List.length_filter_le _ _

theorem unmarked_of_compiling {c' : Cache} (h : c'.compiling = c.compiling) :
    loader.unmarked c' = loader.unmarked c := by
  rw [unmarked, unmarked, h]

/-- One script fewer is left when its key gets a mark. -/
theorem unmarked_lt {c' : Cache} (hkey : key ∈ loader.calls.map Prod.fst)
    (hfresh : ⟨.named, key⟩ ∉ c.compiling)
    (h : c'.compiling = c.compiling ++ [⟨.named, key⟩]) :
    loader.unmarked c' < loader.unmarked c := by
  obtain ⟨entry, hentry, rfl⟩ := List.mem_map.1 hkey
  have hfilter : (loader.calls.filter fun entry => ⟨.named, entry.1⟩ ∉ c'.compiling) =
      (loader.calls.filter fun entry => ⟨.named, entry.1⟩ ∉ c.compiling).filter
        fun other => other.1 ≠ entry.1 := by
    rw [List.filter_filter]
    refine List.filter_congr fun other _ => ?_
    rw [h]
    simp [not_or, and_comm]
  rw [unmarked, unmarked, hfilter, List.length_filter_lt_length_iff_exists]
  exact ⟨entry, List.mem_filter.2 ⟨hentry, by simpa using hfresh⟩, by simp⟩

/-- A key without a script has no calls made. -/
theorem script_of_not_mem (hkey : key ∉ loader.calls.map Prod.fst) : loader.script key = [] := by
  rw [script, lookup_calls_of_not_mem hkey]
  rfl

end Loader

namespace Asker

open Caching

variable {loader : Loader} {waiting : List PendingLoad} {n : Nat}

section
variable (hget : ∀ waiting slot c, loader.unmarked c < n →
  Reaches loader ⟨waiting, .asks slot, c⟩ (answer waiting (get loader n slot c)))
include hget

/-- A load that waits for an answer goes on when it has it, or ends in the fault that it is. -/
theorem reaches_askFor {key : String} {rest : List CacheCall} {slot : Slot}
    {passes : Fault → Bool} {c : Cache} (hc : loader.unmarked c < n) :
    Reaches loader ⟨⟨key, rest, passes⟩ :: waiting, .asks slot, c⟩
      (match askFor (get loader n) slot passes c with
        | (.ok (), c) => ⟨waiting, .loads key rest, c⟩
        | (.error fault, c) => answer waiting (settle ⟨.named, key⟩ (.error fault, c))) := by
  refine (hget (⟨key, rest, passes⟩ :: waiting) slot c hc).trans (Reaches.of_step ?_)
  unfold askFor
  rcases get loader n slot c with ⟨fault | kept, c'⟩
  · show Reaches loader (resume ⟨key, rest, passes⟩ waiting c' (.error fault)) _
    unfold resume
    cases hpasses : passes fault with
    | true =>
      simp only [hpasses, if_true]
      exact .refl loader _
    | false =>
      simp only [hpasses]
      exact .refl loader _
  · exact .refl loader _

/-- A load makes its next call, and goes on unless the call comes to a fault. -/
theorem reaches_callBy {key : String} {rest : List CacheCall} {c : Cache} (call : CacheCall)
    (hc : loader.unmarked c < n) :
    Reaches loader ⟨waiting, .loads key (call :: rest), c⟩
      (match callBy (get loader n) call c with
        | (.ok (), c) => ⟨waiting, .loads key rest, c⟩
        | (.error fault, c) => answer waiting (settle ⟨.named, key⟩ (.error fault, c))) := by
  refine Reaches.of_step ?_
  cases call with
  | named other => exact reaches_askFor hget hc
  | inline text => exact reaches_askFor hget hc
  | clear => exact .refl loader _
  | tryNamed other => exact reaches_askFor hget hc

/-- A load comes to what making its calls, fetching its text and compiling that comes to. -/
theorem reaches_script (key : String) {calls : List CacheCall} {c : Cache}
    (hc : calls = [] ∨ loader.unmarked c < n) :
    Reaches loader ⟨waiting, .loads key calls, c⟩
      (answer waiting
        (settle ⟨.named, key⟩ (makeAfter loader (callBy (get loader n)) key calls c))) := by
  induction calls generalizing c with
  | nil => exact .of_step (.refl loader _)
  | cons call rest ih =>
    have hc : loader.unmarked c < n := by simpa using hc
    have hmarks := keepsMarks_callBy (keepsMarks_get loader n) call c
    refine (reaches_callBy hget call hc).trans ?_
    rw [makeAfter_cons, bind_apply]
    rcases hcall : callBy (get loader n) call c with ⟨fault | _, c'⟩
    · exact .refl loader _
    · rw [hcall] at hmarks
      refine ih (.inr ?_)
      rwa [Loader.unmarked_of_compiling hmarks]

end

/-- Asking comes to an answer, whatever waits for it, and it is the one that `get` gives at a depth
beyond the number of scripts whose keys are not marked. -/
theorem reaches_get {c : Cache} (hc : loader.unmarked c < n) (waiting : List PendingLoad)
    (slot : Slot) :
    Reaches loader ⟨waiting, .asks slot, c⟩ (answer waiting (get loader n slot c)) := by
  -- each load inside the load of a key with a script has one script fewer that is not marked
  induction n generalizing c waiting slot with
  | zero => exact absurd hc (Nat.not_lt_zero _)
  | succ n ih =>
    refine Reaches.of_step ?_
    show Reaches loader (ask loader waiting slot c) _
    rw [get_succ, ask]
    cases hfind : c.find? slot with
    | some kept => exact .refl loader _
    | none =>
      by_cases hmem : slot ∈ c.compiling
      · simp only [if_pos hmem]
        exact .refl loader _
      · simp only [if_neg hmem]
        rw [buildMarked_eq_settle]
        obtain ⟨space, key⟩ := slot
        cases space with
        | inline => exact .refl loader _
        | named =>
          rw [build_named]
          refine reaches_script (fun waiting slot c hc => ih hc waiting slot) key ?_
          by_cases hkey : key ∈ loader.calls.map Prod.fst
          · have hmarks : ((c.enter ⟨.named, key⟩).tell (.asked key)).compiling =
                c.compiling ++ [⟨.named, key⟩] := rfl
            have hlt := Loader.unmarked_lt hkey hmem hmarks
            exact .inr (Nat.lt_of_lt_of_le hlt (Nat.le_of_lt_succ hc))
          · exact .inl (Loader.script_of_not_mem hkey)

/-! ## What is being loaded -/

/-- The keys of the loads that wait, the outermost first. -/
def waitingKeys (waiting : List PendingLoad) : List String := (waiting.map PendingLoad.key).reverse

/-- The key whose load is going on, if the thread is loading. -/
def current : Errand → List String
  | .loads key _ => [key]
  | _ => []

/-- The keys that are being loaded inside each other, the outermost first. -/
def loading (a : Asker) : List String := waitingKeys a.waiting ++ current a.doing

/-- The keys of a cycle: different ones that are being loaded, and one of them again. -/
def ClosesUp (chain : List String) : Prop :=
  ∃ loading, ∃ key ∈ loading, loading.Nodup ∧ chain = loading ++ [key]

/-- A cycle with these keys may be reported: the cache has found it, or it is what keeps the text of
a key from being loaded. -/
def Reportable (loader : Loader) (chain : List String) : Prop :=
  ClosesUp chain ∨ ∃ key, loader.load key = .error (.cycle chain)

/-- The keys that are being loaded are different, and they are those that are marked. -/
structure Sound (loader : Loader) (a : Asker) : Prop where
  marked : a.cache.compiling = a.loading.map (Slot.mk .named)
  nodup : a.loading.Nodup
  reported : ∀ chain, a.doing = .answers (.error (.cycle chain)) → Reportable loader chain

theorem waitingKeys_cons (load : PendingLoad) (waiting : List PendingLoad) :
    waitingKeys (load :: waiting) = waitingKeys waiting ++ [load.key] := by
  rw [waitingKeys, List.map_cons, List.reverse_cons]
  rfl

section
variable {c : Cache} {key : String} {slot : Slot}

/-- An answer is sound if the cycle that it may report is one of the loader's. -/
theorem sound_answer {result : Except Fault Kept × Cache}
    (hmarked : result.2.compiling = (waitingKeys waiting).map (Slot.mk .named))
    (hnodup : (waitingKeys waiting).Nodup)
    (hreported : ∀ chain, result.1 = .error (.cycle chain) → Reportable loader chain) :
    (answer waiting result).Sound loader := by
  have hloading : (answer waiting result).loading = waitingKeys waiting := List.append_nil _
  refine ⟨?_, ?_, fun chain hchain => hreported chain (Errand.answers.inj hchain)⟩
  · rw [hloading]
    exact hmarked
  · rw [hloading]
    exact hnodup

/-- A question is sound on the marks of those who wait. -/
theorem sound_asks (hmarked : c.compiling = (waitingKeys waiting).map (Slot.mk .named))
    (hnodup : (waitingKeys waiting).Nodup) : Sound loader ⟨waiting, .asks slot, c⟩ := by
  have hloading : loading ⟨waiting, .asks slot, c⟩ = waitingKeys waiting := List.append_nil _
  refine ⟨?_, ?_, fun chain => nofun⟩
  · rw [hloading]
    exact hmarked
  · rw [hloading]
    exact hnodup

theorem sound_loads {calls : List CacheCall}
    (hmarked : c.compiling = (waitingKeys waiting ++ [key]).map (Slot.mk .named))
    (hnodup : (waitingKeys waiting ++ [key]).Nodup) :
    Sound loader ⟨waiting, .loads key calls, c⟩ := ⟨hmarked, hnodup, fun _ => nofun⟩

/-! ## What an answer may be -/

/-- Settling changes no fault. -/
theorem error_of_settle {result : Except Fault Template × Cache} {fault : Fault}
    (h : (settle slot result).1 = .error fault) : result.1 = .error fault := by
  obtain ⟨fault' | t, c⟩ := result
  · exact congrArg Except.error (Except.error.inj h)
  · cases h

/-- Compiling finds no cycle. -/
theorem compile_ne_cycle (text name : String) (c : Cache) (chain : List String) :
    (compile text name c).1 ≠ .error (.cycle chain) := by
  obtain ⟨told, -, hcompile⟩ := tells_compile text name c
  rw [hcompile]
  cases Template.compile text name with
  | error e => exact nofun
  | ok t => exact nofun

/-- Where a load whose calls have been made ends in a cycle, this is what keeps its text away. -/
theorem load_of_compileFetched {chain : List String}
    (h : (compileFetched loader key c).1 = .error (.cycle chain)) :
    loader.load key = .error (.cycle chain) := by
  rw [compileFetched, bind_apply, fetch] at h
  cases hload : loader.load key with
  | error fault =>
    rw [hload] at h
    exact congrArg Except.error (Except.error.inj h)
  | ok loaded =>
    rw [hload] at h
    exact absurd h (compile_ne_cycle _ _ _ chain)

/-! ## One step and all of them -/

variable {a : Asker}

/-- A slot that is marked is a name that is being loaded. -/
theorem Sound.key_mem_loading (h : a.Sound loader) (hmem : slot ∈ a.cache.compiling) :
    slot.key ∈ a.loading ∧
      a.cache.compiling.map Slot.label ++ [slot.label] = a.loading ++ [slot.key] := by
  rw [h.marked] at hmem ⊢
  obtain ⟨key, hkey, rfl⟩ := List.mem_map.1 hmem
  have hlabel : Slot.label ∘ Slot.mk .named = id := rfl
  rw [List.map_map, hlabel, List.map_id]
  exact ⟨hkey, rfl⟩

/-- What asking for a slot does at once. -/
inductive Asks (loader : Loader) (waiting : List PendingLoad) (slot : Slot) (c : Cache) :
    Asker → Prop
  | found {kept : Kept} : Asks loader waiting slot c (answer waiting (.ok kept, c))
  | cycle (hmem : slot ∈ c.compiling) : Asks loader waiting slot c
      (answer waiting (.error (.cycle (c.compiling.map Slot.label ++ [slot.label])), c))
  | compiles (hfresh : slot ∉ c.compiling) : Asks loader waiting slot c
      (answer waiting (settle slot (compile slot.key "" (c.enter slot))))
  | loads {key : String} (hslot : slot = ⟨.named, key⟩) (hfresh : slot ∉ c.compiling) :
      Asks loader waiting slot c
        ⟨waiting, .loads key (loader.script key), (c.enter slot).tell (.asked key)⟩

/-- What becomes of a question: it is answered from what is kept, it is a cycle, it is compiled at
once, or its load starts. -/
theorem asks_ask (loader : Loader) (waiting : List PendingLoad) (slot : Slot) (c : Cache) :
    Asks loader waiting slot c (ask loader waiting slot c) := by
  unfold ask
  cases c.find? slot with
  | some kept => exact .found
  | none =>
    by_cases hmem : slot ∈ c.compiling
    · simp only [if_pos hmem]
      exact .cycle hmem
    · simp only [if_neg hmem]
      obtain ⟨space, key⟩ := slot
      cases space with
      | inline => exact .compiles hmem
      | named => exact .loads rfl hmem

/-- A cycle that is found when a slot is asked for is of the keys that are being loaded and the one
that is asked for. -/
theorem Sound.cycle_of_ask (h : Sound loader ⟨waiting, .asks slot, c⟩) {chain : List String}
    (hcycle : (Asker.ask loader waiting slot c).doing = .answers (.error (.cycle chain))) :
    slot.key ∈ loading ⟨waiting, .asks slot, c⟩ ∧
      chain = loading ⟨waiting, .asks slot, c⟩ ++ [slot.key] := by
  have hasks := asks_ask loader waiting slot c
  generalize Asker.ask loader waiting slot c = after at hasks hcycle
  cases hasks with
  | found => cases hcycle
  | cycle hmem =>
    obtain ⟨hkey, hlabels⟩ := h.key_mem_loading hmem
    refine ⟨hkey, ?_⟩
    rw [← hlabels]
    exact (Fault.cycle.inj (Except.error.inj (Errand.answers.inj hcycle))).symm
  | compiles =>
    exact absurd (error_of_settle (Errand.answers.inj hcycle)) (compile_ne_cycle _ _ _ _)
  | loads => cases hcycle

/-- A question is answered soundly or its key joins the marked ones, which it was not among. -/
theorem Sound.ask (h : Sound loader ⟨waiting, .asks slot, c⟩) :
    (Asker.ask loader waiting slot c).Sound loader := by
  have hloading : loading ⟨waiting, .asks slot, c⟩ = waitingKeys waiting := List.append_nil _
  have hmarked : c.compiling = (waitingKeys waiting).map (Slot.mk .named) := hloading ▸ h.marked
  have hnodup : (waitingKeys waiting).Nodup := hloading ▸ h.nodup
  have hreported (chain : List String)
      (hcycle : (Asker.ask loader waiting slot c).doing = .answers (.error (.cycle chain))) :
      Reportable loader chain := by
    obtain ⟨hkey, hchain⟩ := h.cycle_of_ask hcycle
    exact .inl ⟨_, slot.key, hkey, h.nodup, hchain⟩
  have hasks := asks_ask loader waiting slot c
  generalize Asker.ask loader waiting slot c = after at hasks hreported ⊢
  cases hasks with
  | found => exact sound_answer hmarked hnodup fun _ => nofun
  | cycle =>
    exact sound_answer hmarked hnodup fun chain hchain => hreported chain (congrArg _ hchain)
  -- a text is compiled at once and leaves the marks as they were
  | compiles hfresh =>
    have hmarks := keepsMarks_compile slot.key "" (c.enter slot)
    exact sound_answer ((compiling_settle hfresh hmarks).trans hmarked) hnodup
      fun chain hchain => hreported chain (congrArg _ hchain)
  -- a key that is loaded is marked last, and it was not marked before
  | @loads key hslot hfresh =>
    subst hslot
    refine sound_loads ?_ ?_
    · show c.compiling ++ [⟨.named, key⟩] = _
      rw [hmarked, List.map_append]
      rfl
    · rw [List.nodup_append]
      refine ⟨hnodup, by simp, ?_⟩
      rintro other hother _ hkey rfl
      apply hfresh
      rw [hmarked, ← List.mem_singleton.1 hkey]
      exact List.mem_map_of_mem hother

/-- A call of a script asks soundly: its key waits with the rest of its script. -/
theorem Sound.call {rest : List CacheCall} (call : CacheCall)
    (h : Sound loader ⟨waiting, .loads key (call :: rest), c⟩) :
    (Asker.call waiting key rest c call).Sound loader := by
  have hasks (slot : Slot) (passes : Fault → Bool) :
      Sound loader ⟨⟨key, rest, passes⟩ :: waiting, .asks slot, c⟩ := by
    apply sound_asks
    · rw [waitingKeys_cons]
      exact h.marked
    · rw [waitingKeys_cons]
      exact h.nodup
  cases call with
  | named other => exact hasks _ _
  | inline text => exact hasks _ _
  | clear => exact sound_loads h.marked h.nodup
  | tryNamed other => exact hasks _ _

/-- The mark of the innermost load goes when it ends. -/
theorem compiling_settle_of_marked {result : Except Fault Template × Cache}
    (hmarked : result.2.compiling = (waitingKeys waiting ++ [key]).map (Slot.mk .named))
    (hnodup : (waitingKeys waiting ++ [key]).Nodup) :
    (settle ⟨.named, key⟩ result).2.compiling = (waitingKeys waiting).map (Slot.mk .named) := by
  apply compiling_settle
  · intro hmem
    obtain ⟨other, hother, heq⟩ := List.mem_map.1 hmem
    obtain rfl : other = key := congrArg Slot.key heq
    exact (List.nodup_append.1 hnodup).2.2 other hother other (List.mem_singleton_self other) rfl
  · rw [hmarked, List.map_append]
    rfl

/-- The load that is resumed is the innermost of those that wait. -/
theorem Sound.resume {load : PendingLoad} {result : Except Fault Kept}
    (h : Sound loader ⟨load :: waiting, .answers result, c⟩) :
    (Asker.resume load waiting c result).Sound loader := by
  have hloading : loading ⟨load :: waiting, .answers result, c⟩ =
      waitingKeys waiting ++ [load.key] :=
    (List.append_nil _).trans (waitingKeys_cons load waiting)
  have hmarked : c.compiling = (waitingKeys waiting ++ [load.key]).map (Slot.mk .named) :=
    hloading ▸ h.marked
  have hnodup : (waitingKeys waiting ++ [load.key]).Nodup := hloading ▸ h.nodup
  have hloads : Sound loader ⟨waiting, .loads load.key load.rest, c⟩ :=
    sound_loads hmarked hnodup
  unfold Asker.resume
  cases result with
  | ok kept => exact hloads
  | error fault =>
    dsimp only
    split
    · exact hloads
    · refine sound_answer (compiling_settle_of_marked hmarked hnodup)
        (List.nodup_append.1 hnodup).1 fun chain hchain => ?_
      obtain rfl : fault = .cycle chain := Except.error.inj hchain
      exact h.reported chain rfl

/-- Every step keeps the chain of keys without repetition and equal to what is marked. -/
theorem Sound.step (h : a.Sound loader) : (a.step loader).Sound loader := by
  obtain ⟨waiting, doing, c⟩ := a
  cases doing with
  | asks slot => exact h.ask
  | loads key calls =>
    cases calls with
    | nil =>
      have hmarked := (keepsMarks_compileFetched loader key c).trans h.marked
      exact sound_answer (compiling_settle_of_marked hmarked h.nodup)
        (List.nodup_append.1 h.nodup).1 fun chain hchain =>
          .inr ⟨key, load_of_compileFetched (error_of_settle hchain)⟩
    | cons call rest => exact h.call call
  | answers result =>
    cases waiting with
    | nil => exact h
    | cons load waiting => exact h.resume

/-- A thread that has marked nothing stays sound however many steps it takes. -/
theorem sound_run (hc : c.compiling = []) (slot : Slot) (n : Nat) :
    ((Asker.step loader)^[n] ⟨[], .asks slot, c⟩).Sound loader := by
  induction n with
  | zero => exact sound_asks hc List.nodup_nil
  | succ n ih =>
    rw [Function.iterate_succ_apply']
    exact ih.step

end

end Asker

/-- A thread that has marked nothing asks the cache for a slot. Whatever the scripts of the keys
call and whatever comes of it, the thread has an answer after finitely many steps, and it has it
with the cache that it is given with. At every step the keys that are being loaded inside each
other, from the outermost inwards, are different, and they are those that are marked. A cycle is
found where one of them is asked for again and consists of them and that key, and no other cycle is
ever answered than one that was found or that kept a text from being loaded. -/
theorem Cache.get_steps (loader : Loader) {c : Cache} (hc : c.compiling = []) (slot : Slot) :
    let after (n : Nat) := (Asker.step loader)^[n] ⟨[], .asks slot, c⟩
    (∃ n, after n = ⟨[], .answers (c.get loader slot).1, (c.get loader slot).2⟩) ∧
    (∀ n, (after n).loading.Nodup ∧
      (after n).cache.compiling = (after n).loading.map (Slot.mk .named)) ∧
    (∀ n asked chain, (after n).doing = .asks asked →
      (after (n + 1)).doing = .answers (.error (.cycle chain)) →
      asked.key ∈ (after n).loading ∧ chain = (after n).loading ++ [asked.key]) ∧
    ∀ n chain, (after n).doing = .answers (.error (.cycle chain)) →
      Asker.Reportable loader chain := by
  intro after
  have hsound (n : Nat) : (after n).Sound loader := Asker.sound_run hc slot n
  refine ⟨?_, fun n => ⟨(hsound n).nodup, (hsound n).marked⟩, fun n asked chain hasks hcycle => ?_,
    fun n => (hsound n).reported⟩
  -- every call nested in another marks one more key, so the depth never runs out
  · have hdepth : loader.unmarked c < loader.calls.length + 1 :=
      Nat.lt_succ_of_le (loader.unmarked_le c)
    exact Asker.reaches_get hdepth [] slot
  · have hstep : after (n + 1) = (after n).step loader := Function.iterate_succ_apply' _ n _
    have hn := hsound n
    rw [hstep] at hcycle
    generalize after n = a at hasks hcycle hn ⊢
    obtain ⟨waiting, doing, c'⟩ := a
    obtain rfl : doing = .asks asked := hasks
    exact hn.cycle_of_ask hcycle

/-- Two keys whose loads ask for each other: the first load passes over the cycle that comes of it,
clears the cache, and asks once more. -/
theorem Cache.get_steps_knot :
    let loader : Loader :=
      ⟨[("a", [.tryNamed "b", .clear, .named "b"]), ("b", [.named "a"])],
        fun key => .ok ⟨key, none⟩⟩
    let after (n : Nat) := (Asker.step loader)^[n] ⟨[], .asks ⟨.named, "a"⟩, {}⟩
    ({} : Cache).compiling = [] ∧
    (∃ n, (after n).waiting = [] ∧
      (after n).doing = .answers (.error (.cycle ["a", "b", "a"]))) ∧
    (∀ n, (after n).loading.Nodup ∧
      (after n).cache.compiling = (after n).loading.map (Slot.mk .named)) ∧
    (after 4).loading = ["a", "b"] ∧ (after 4).doing = .asks ⟨.named, "a"⟩ ∧
    (after 5).doing = .answers (.error (.cycle ["a", "b", "a"])) := by
  intro loader after
  have hc : ({} : Cache).compiling = [] := rfl
  have hfault : (({} : Cache).get loader ⟨.named, "a"⟩).1.map (fun _ => ()) =
      .error (.cycle ["a", "b", "a"]) := by decide +kernel
  have hanswer := map_eq_error_iff.1 hfault
  obtain ⟨⟨n, hn⟩, hloading, -⟩ := Cache.get_steps loader hc ⟨.named, "a"⟩
  refine ⟨hc, ⟨n, ?_, ?_⟩, hloading, rfl, rfl, rfl⟩
  · exact congrArg Asker.waiting hn
  · exact (congrArg Asker.doing hn).trans (congrArg Errand.answers hanswer)

end Mustache
