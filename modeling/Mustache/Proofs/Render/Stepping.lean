import Mathlib.Logic.Function.Iterate
import Mustache.Proofs.Render.Ending
import Mustache.Proofs.Render.Simulation

/-!
# Rendering step by step

The walk over a template calls itself for every body, every item of a list and every template that
is included, and it is bounded by a depth. Taken one step at a time it needs no bound: a walker
keeps a list of what is left to do, and the keys of the templates that it is in.

Two things are proved about walkers. Whatever happens in a step, the keys stay different and stay
among those of the templates that can be found. And from any task a walker comes to the end of it:
this follows the recursion of the walk, whose depth covers the keys that are not yet active, and
inside it the nodes and the items. So the walker and the walk come to the same end, and the depth of
the walk is never used up.
-/

namespace Mustache

/-! ## Walkers -/

/-- Something that is left to do. -/
inductive Task
  /-- A template is about to be walked. -/
  | enter (scope : Scope) (t : Template)
  /-- The rest of some nodes. -/
  | body (scope : Scope) (rest : List Node)
  /-- A body for each of the items that are left. -/
  | each (scope : Scope) (items : List Value) (body : List Node)
  /-- A template has been walked. -/
  | leave

/-- A walk between two of its steps. -/
structure Walker (Library : Type) where
  /-- What is left to do, in order. -/
  agenda : List Task
  /-- The keys of the templates that are being walked, the outermost first. -/
  active : List String
  /-- The fault that ends the walk; with it, templates are left and nothing else is done. -/
  fault : Option Fault
  progress : Progress Library

variable {L : Type}

/-- Does what a node asks for at once, and gives what is left to do for it. -/
def Walk.start (finder : Finder L) (scope : Scope) : Node → Walk L (List Task)
  | .text s => do
    write s
    return []
  | .variable name escape => do
    let v ← resolve scope name
    writeValue v escape
    return []
  | .block false name body => do
    let v ← resolve scope name
    if v.isAbsent then return []
    else
      match ← items? v with
      | none => return [.body (scope.push v) body]
      | some items => return [.each scope items body]
  | .block true name body => do
    let v ← resolve scope name
    if ← isBlank v then return [.body scope body] else return []
  | .inclusion name => do
    match ← find finder name with
    | none => return []
    | some t =>
      tell (.including name scope.depth)
      return [.enter scope t]
  | .comment _ => return []
  | .foreign => throw .unsupportedNode

namespace Walker

/-- A walker that is about to walk a template. -/
def ofTemplate (t : Template) (data : Value) (sink : Sink) (library : L) : Walker L :=
  ⟨[.enter (.ofRoot data) t], [], none, ⟨sink, {}, [], library⟩⟩

/-- Does the first task, or a part of it. -/
def perform (finder : Finder L) (w : Walker L) (rest : List Task) : Task → Walker L
  | .enter scope t =>
    if t.key ∈ w.active then
      { w with agenda := rest, fault := some (.cycle (w.active ++ [t.key])) }
    else
      { w with agenda := .body scope t.nodes :: .leave :: rest, active := w.active ++ [t.key] }
  | .body _ [] => { w with agenda := rest }
  | .body scope (first :: more) =>
    match Walk.start finder scope first w.progress with
    | (.ok tasks, p) => { w with agenda := tasks ++ .body scope more :: rest, progress := p }
    | (.error fault, p) => { w with agenda := rest, fault := some fault, progress := p }
  | .each _ [] _ => { w with agenda := rest }
  | .each scope (item :: items) body =>
    { w with agenda := .body (scope.push item) body :: .each scope items body :: rest }
  | .leave => { w with agenda := rest, active := w.active.dropLast }

/-- Takes one step. With a fault, tasks are passed over until the template that they belong to is
left. A walker that has nothing left to do stays as it is. -/
def step (finder : Finder L) (w : Walker L) : Walker L :=
  match w.agenda, w.fault with
  | [], _ => w
  | task :: rest, none => w.perform finder rest task
  | .leave :: rest, some _ => w.perform finder rest .leave
  | _ :: rest, some _ => { w with agenda := rest }

/-- How a walk that has nothing left to do has ended. -/
def result (w : Walker L) : Except Fault Unit :=
  match w.fault with
  | none => .ok ()
  | some fault => .error fault

end Walker

/-! ## What a node leaves to do -/

/-- The tasks that a node can leave to be done. -/
inductive Node.Leaves (keys : List String) : Node → List Task → Prop
  | nothing (n : Node) : Leaves keys n []
  | body (inverted : Bool) (name : String) (body : List Node) (scope : Scope) :
    Leaves keys (.block inverted name body) [.body scope body]
  | each (inverted : Bool) (name : String) (body : List Node) (scope : Scope)
    (items : List Value) : Leaves keys (.block inverted name body) [.each scope items body]
  | enter (name : String) (scope : Scope) {t : Template} (hkey : t.key ∈ keys) :
    Leaves keys (.inclusion name) [.enter scope t]

/-- As long as a library is of some kind, which it remains, it gives only templates with some keys
and never fails for want of depth. -/
structure Finder.Within (Kind : L → Prop) (keys : List String) (finder : Finder L) : Prop where
  key : ∀ {name library t}, Kind library → (finder name library).template = .ok (some t) →
    t.key ∈ keys
  fault : ∀ {name library fault}, Kind library → (finder name library).template = .error fault →
    fault ≠ .exhausted
  library : ∀ {name library}, Kind library → Kind (finder name library).library

namespace Walk

variable {α β : Type} {Kind : L → Prop} {P : α → Prop} {w : Walk L α}

/-- With a library of some kind, which it remains, the results of a walk have a property, and the
walk never fails for want of depth. -/
def Yields (Kind : L → Prop) (P : α → Prop) (w : Walk L α) : Prop :=
  ∀ p, Kind p.library → Kind (w p).2.library ∧
    match (w p).1 with
    | .ok a => P a
    | .error fault => fault ≠ .exhausted

/-- Only entering a template can exhaust a rendering. -/
theorem coversPlain_ne_exhausted : Fault.CoversPlain (· ≠ .exhausted) :=
  ⟨nofun, nofun, nofun⟩

theorem Yields.bind {Q : β → Prop} {f : α → Walk L β} (h : Yields Kind P w)
    (hf : ∀ a, P a → Yields Kind Q (f a)) : Yields Kind Q (w >>= f) :=
  Ends.bind h hf

theorem yields_pure {a : α} (h : P a) : Yields Kind P (pure a : Walk L α) := fun _ hp => ⟨hp, h⟩

theorem yields_throw {fault : Fault} (h : fault ≠ .exhausted) :
    Yields Kind P (throw fault : Walk L α) := fun _ hp => ⟨hp, h⟩

theorem yields_tell (notice : Notice) :
    Yields Kind (fun _ => True) (tell notice : Walk L Unit) := fun _ hp => ⟨hp, trivial⟩

/-- Only the results are left out of account where walks are put together. -/
theorem congruence_yields :
    Congruence fun {_} (w : Walk L _) (_ : Walk L _) => Yields Kind (fun _ => True) w :=
  congruence_ends coversPlain_ne_exhausted

section
variable {keys : List String} {finder : Finder L}

/-- What a finder gives under a name has one of the keys. -/
theorem yields_find (h : finder.Within Kind keys) (name : String) :
    Yields Kind (fun found => ∀ t, found = some t → t.key ∈ keys) (find finder name) := by
  intro p hp
  refine ⟨h.library hp, ?_⟩
  rw [find]
  split
  · next found hfound =>
    rintro t rfl
    exact h.key hp hfound
  · next fault hfault => exact h.fault hp hfault

/-- A node leaves what its kind allows. -/
theorem yields_start (h : finder.Within Kind keys) (scope : Scope) (n : Node) :
    Yields Kind (n.Leaves keys) (start finder scope n) := by
  cases n with
  | text s => exact (congruence_yields.chunk s).bind fun _ _ => yields_pure (.nothing _)
  | «variable» name escape =>
    refine (congruence_yields.resolve scope name).bind fun v _ => ?_
    exact (congruence_yields.writeValue v escape).bind fun _ _ => yields_pure (.nothing _)
  -- a block leaves its body, once or for each of the items, or nothing
  | block inverted name body =>
    cases inverted with
    | false =>
      refine (congruence_yields.resolve scope name).bind fun v _ => ?_
      split
      · exact yields_pure (.nothing _)
      · refine (congruence_yields.items? v).bind fun items _ => ?_
        cases items with
        | none => exact yields_pure (.body _ _ _ _)
        | some items => exact yields_pure (.each _ _ _ _ _)
    | true =>
      refine (congruence_yields.resolve scope name).bind fun v _ => ?_
      refine (congruence_yields.isBlank v).bind fun blank _ => ?_
      split
      · exact yields_pure (.body _ _ _ _)
      · exact yields_pure (.nothing _)
  -- an inclusion leaves a task to enter the template that was found
  | inclusion name =>
    refine (yields_find h name).bind fun found hfound => ?_
    cases found with
    | none => exact yields_pure (.nothing _)
    | some t => exact (yields_tell _).bind fun _ _ => yields_pure (.enter _ _ (hfound t rfl))
  | comment s => exact yields_pure (.nothing _)
  | foreign => exact yields_throw (by simp)

end

/-- The walk that a task is a part of. -/
def ofTask (finder : Finder L) (enter : Scope → Template → Walk L Unit) : Task → Walk L Unit
  | .enter scope t => enter scope t
  | .body scope rest => nodes finder enter scope rest
  | .each scope items body => items.forM fun item => nodes finder enter (scope.push item) body
  | .leave => return ()

theorem forM_singleton (f : α → Walk L Unit) (a : α) : [a].forM f = f a := bind_pure_unit

/-- A node is walked by starting on it and doing what it leaves. -/
theorem node_eq_start (finder : Finder L) (enter : Scope → Template → Walk L Unit) (scope : Scope)
    (n : Node) : node finder enter scope n =
      start finder scope n >>= fun tasks => tasks.forM (ofTask finder enter) := by
  cases n with
  | text s => simp [node, start]
  | «variable» name escape => simp [node, start]
  | block inverted name body =>
    cases inverted with
    -- a section leaves one task for its items, or one for the value that it pushes
    | false =>
      rw [node, start, bind_assoc]
      refine bind_congr fun v => ?_
      split
      · rfl
      · rw [bind_assoc]
        refine bind_congr fun items => ?_
        cases items with
        | none => exact (forM_singleton _ _).symm
        | some items => exact (forM_singleton _ _).symm
    | true =>
      rw [node, start, bind_assoc]
      refine bind_congr fun v => ?_
      rw [bind_assoc]
      refine bind_congr fun blank => ?_
      split
      · exact (forM_singleton _ _).symm
      · rfl
  -- a partial that is found leaves one task, to enter it
  | inclusion name =>
    rw [node, start, bind_assoc]
    refine bind_congr fun found => ?_
    cases found with
    | none => rfl
    | some t =>
      rw [bind_assoc]
      exact bind_congr fun _ => (forM_singleton _ _).symm
  | comment s => rfl
  | foreign => rfl

end Walk

/-! ## What every step keeps -/

/-- The keys of the templates that a walker is in are different and known, those it is about to
enter are known, it has not run out of depth, and its library is of the kind it was. -/
structure Walker.Sound (Kind : L → Prop) (keys : List String) (w : Walker L) : Prop where
  chain : Chain keys w.active
  known : ∀ {scope t}, .enter scope t ∈ w.agenda → t.key ∈ keys
  fault : w.fault ≠ some .exhausted
  library : Kind w.progress.library

namespace Walker

variable {Kind : L → Prop} {keys : List String} {finder : Finder L} {w : Walker L}

/-- A task is replaced by the tasks that its node leaves, and the chain of active keys grows or
shrinks by one at most. -/
theorem Sound.perform (hfinder : finder.Within Kind keys) (h : w.Sound Kind keys) {task : Task}
    {rest : List Task} (hagenda : w.agenda = task :: rest) :
    (w.perform finder rest task).Sound Kind keys := by
  have hrest : ∀ {scope t}, .enter scope t ∈ rest → t.key ∈ keys := fun hmem =>
    h.known (hagenda ▸ List.mem_cons_of_mem task hmem)
  cases task with
  -- a cycle ends the run; otherwise the key joins the chain, and a task to leave it is put behind
  -- the body
  | enter scope t =>
    rw [Walker.perform]
    split
    · exact ⟨h.chain, hrest, by simp, h.library⟩
    · next hfresh =>
      have hkey := h.known (hagenda ▸ List.mem_cons_self)
      refine ⟨h.chain.enter hkey hfresh, fun hmem => ?_, h.fault, h.library⟩
      simp only [List.mem_cons, reduceCtorEq, false_or] at hmem
      exact hrest hmem
  | body scope nodes =>
    cases nodes with
    | nil => exact ⟨h.chain, hrest, h.fault, h.library⟩
    | cons first more =>
      have hstart := Walk.yields_start hfinder scope first w.progress h.library
      rw [Walker.perform]
      split
      · next tasks p hok =>
        rw [hok] at hstart
        refine ⟨h.chain, fun hmem => ?_, h.fault, hstart.1⟩
        simp only [List.mem_append, List.mem_cons, reduceCtorEq, false_or] at hmem
        rcases hmem with hmem | hmem
        -- the tasks that a node leaves enter only templates that the finder gave
        · cases hstart.2 with
          | nothing => cases hmem
          | body | each => simp at hmem
          | enter _ _ hkey =>
            obtain ⟨-, rfl⟩ := Task.enter.inj (List.mem_singleton.1 hmem)
            exact hkey
        · exact hrest hmem
      · next fault p herror =>
        rw [herror] at hstart
        exact ⟨h.chain, hrest, fun heq => hstart.2 (Option.some.inj heq), hstart.1⟩
  | each scope items body =>
    cases items with
    | nil => exact ⟨h.chain, hrest, h.fault, h.library⟩
    | cons item items =>
      refine ⟨h.chain, fun hmem => ?_, h.fault, h.library⟩
      simp only [Walker.perform, List.mem_cons, reduceCtorEq, false_or] at hmem
      exact hrest hmem
  -- the last key of the chain goes
  | leave => exact ⟨h.chain.leave, hrest, h.fault, h.library⟩

/-- A step keeps a walker sound. -/
theorem Sound.step (hfinder : finder.Within Kind keys) (h : w.Sound Kind keys) :
    (w.step finder).Sound Kind keys := by
  rw [Walker.step]
  split
  · exact h
  · next hagenda _ => exact h.perform hfinder hagenda
  · next hagenda _ => exact h.perform hfinder hagenda
  · next task rest fault _ hagenda _ =>
    exact ⟨h.chain, fun hmem => h.known (hagenda ▸ List.mem_cons_of_mem task hmem), h.fault,
      h.library⟩

/-- A walker stays sound however many steps it takes. -/
theorem Sound.run (hfinder : finder.Within Kind keys) (h : w.Sound Kind keys) (n : Nat) :
    ((Walker.step finder)^[n] w).Sound Kind keys := by
  induction n generalizing w with
  | zero => exact h
  | succ n ih =>
    rw [Function.iterate_succ_apply]
    exact ih (h.step hfinder)

/-- At the start the chain has the key of the template alone. -/
theorem sound_ofTemplate {t : Template} (hkey : t.key ∈ keys) (data : Value) (sink : Sink)
    {library : L} (hlibrary : Kind library) :
    (ofTemplate t data sink library).Sound Kind keys := by
  refine ⟨Chain.nil keys, fun hmem => ?_, nofun, hlibrary⟩
  obtain ⟨-, rfl⟩ := Task.enter.inj (List.mem_singleton.1 hmem)
  exact hkey

/-! ## Coming to the end of a task -/

/-- A walker comes to be another one in some number of steps. -/
def Reaches (finder : Finder L) (w w' : Walker L) : Prop := ∃ n, (Walker.step finder)^[n] w = w'

theorem Reaches.refl (finder : Finder L) (w : Walker L) : Reaches finder w w := ⟨0, rfl⟩

theorem Reaches.trans {w' w'' : Walker L} (h : Reaches finder w w') (h' : Reaches finder w' w'') :
    Reaches finder w w'' := by
  obtain ⟨m, rfl⟩ := h
  obtain ⟨n, rfl⟩ := h'
  exact ⟨n + m, Function.iterate_add_apply _ n m w⟩

theorem Reaches.of_step {w' : Walker L} (h : Reaches finder (w.step finder) w') :
    Reaches finder w w' :=
  Reaches.trans ⟨1, rfl⟩ h

/-- The fault in which a part of a walk has ended. -/
def faultOf {α : Type} : Except Fault α → Option Fault
  | .ok _ => none
  | .error fault => some fault

/-- With a library of some kind, which it remains, doing some tasks comes to what a walk comes to,
whatever is left to do behind them. -/
def Does (Kind : L → Prop) (finder : Finder L) (active : List String) (tasks : List Task)
    (walk : Walk L Unit) : Prop :=
  ∀ rest p, Kind p.library → Kind (walk p).2.library ∧
    Reaches finder ⟨tasks ++ rest, active, none, p⟩ ⟨rest, active, faultOf (walk p).1, (walk p).2⟩

section
variable {active : List String}

theorem does_nil : Does Kind finder active [] (pure ()) := fun _ _ hp => ⟨hp, Reaches.refl finder _⟩

/-- Tasks do what is left of them after a step. -/
theorem Does.of_step {tasks tasks' : List Task} {walk : Walk L Unit}
    (h : Does Kind finder active tasks' walk)
    (hstep : ∀ rest p, Walker.step finder ⟨tasks ++ rest, active, none, p⟩ =
      ⟨tasks' ++ rest, active, none, p⟩) : Does Kind finder active tasks walk := by
  intro rest p hp
  obtain ⟨hq, hreaches⟩ := h rest p hp
  rw [← hstep] at hreaches
  exact ⟨hq, hreaches.of_step⟩

/-- A task behind others is passed over if they fail, unless it leaves a template. -/
theorem Does.andThen {tasks : List Task} {walk walk' : Walk L Unit} {task : Task}
    (h : Does Kind finder active tasks walk) (htask : task ≠ .leave)
    (h' : Does Kind finder active [task] walk') :
    Does Kind finder active (tasks ++ [task]) (walk >>= fun _ => walk') := by
  intro rest p hp
  obtain ⟨hq, hfirst⟩ := h (task :: rest) p hp
  rw [Walk.bind_apply, List.append_assoc]
  rcases hwalk : walk p with ⟨fault | _, q⟩
  · rw [hwalk] at hq hfirst
    refine ⟨hq, hfirst.trans (Reaches.of_step ?_)⟩
    cases task with
    | leave => exact absurd rfl htask
    | enter | body | each => exact Reaches.refl finder _
  · rw [hwalk] at hq hfirst
    obtain ⟨hend, hrest⟩ := h' rest q hq
    exact ⟨hend, hfirst.trans hrest⟩

/-- A section's body is done item by item, and the agenda holds the items that are left. -/
theorem does_each {enter : Scope → Template → Walk L Unit} {body : List Node}
    (hbody : ∀ scope,
      Does Kind finder active [.body scope body] (Walk.nodes finder enter scope body))
    (scope : Scope) (items : List Value) :
    Does Kind finder active [.each scope items body]
      (items.forM fun item => Walk.nodes finder enter (scope.push item) body) := by
  induction items with
  | nil => exact does_nil.of_step fun _ _ => rfl
  | cons item items ih =>
    exact ((hbody (scope.push item)).andThen (by simp) ih).of_step fun _ _ => rfl

section
variable {enter : Scope → Template → Walk L Unit}

theorem does_singleton {task : Task}
    (h : Does Kind finder active [task] (Walk.ofTask finder enter task)) :
    Does Kind finder active [task] ([task].forM (Walk.ofTask finder enter)) := by
  rw [Walk.forM_singleton]
  exact h

mutual

/-- What a node leaves comes to what is left of its walk. -/
theorem does_tasks (hfinder : finder.Within Kind keys)
    (henter : ∀ scope t, t.key ∈ keys → Does Kind finder active [.enter scope t] (enter scope t)) :
    ∀ (n : Node) {tasks : List Task}, n.Leaves keys tasks →
      Does Kind finder active tasks (tasks.forM (Walk.ofTask finder enter))
  | .text _, _, .nothing _ | .variable .., _, .nothing _ | .comment _, _, .nothing _
  | .foreign, _, .nothing _ | .block .., _, .nothing _ | .inclusion _, _, .nothing _ => does_nil
  | .block _ _ body, _, .body _ _ _ scope => does_singleton (does_body hfinder henter body scope)
  | .block _ _ body, _, .each _ _ _ scope items =>
    does_singleton (does_each (does_body hfinder henter body) scope items)
  | .inclusion _, _, .enter _ scope hkey => does_singleton (henter scope _ hkey)

/-- Doing a body comes to what the walk over its nodes comes to. -/
theorem does_body (hfinder : finder.Within Kind keys)
    (henter : ∀ scope t, t.key ∈ keys → Does Kind finder active [.enter scope t] (enter scope t)) :
    ∀ (nodes : List Node) (scope : Scope),
      Does Kind finder active [.body scope nodes] (Walk.nodes finder enter scope nodes)
  | [], _ => does_nil.of_step fun _ _ => rfl
  | first :: more, scope => by
    intro rest p hp
    have hleaves := Walk.yields_start hfinder scope first p hp
    have hstep : Walker.step finder ⟨.body scope (first :: more) :: rest, active, none, p⟩ =
        Walker.perform finder ⟨_, active, none, p⟩ rest (.body scope (first :: more)) := rfl
    rw [Walk.nodes, Walk.node_eq_start, bind_assoc, Walk.bind_apply]
    -- the first node leaves tasks; these are done before the rest of the body
    rcases hstart : Walk.start finder scope first p with ⟨fault | tasks, q⟩
    · rw [hstart] at hleaves
      refine ⟨hleaves.1, Reaches.of_step ?_⟩
      rw [List.singleton_append, hstep]
      simp only [Walker.perform, hstart]
      exact Reaches.refl finder _
    · rw [hstart] at hleaves
      have htasks := does_tasks hfinder henter first hleaves.2
      obtain ⟨hend, hall⟩ :=
        htasks.andThen (by simp) (does_body hfinder henter more scope) rest q hleaves.1
      refine ⟨hend, Reaches.of_step ?_⟩
      rw [List.singleton_append, hstep]
      simp only [Walker.perform, hstart]
      rwa [List.append_assoc] at hall

end

end

/-- A template that is active already ends the walk. -/
theorem does_enter_active {t : Template} (hmem : t.key ∈ active) (depth : Nat) (scope : Scope) :
    Does Kind finder active [.enter scope t] (Walk.template finder depth active scope t) := by
  intro rest p hp
  have hstep : Walker.step finder ⟨.enter scope t :: rest, active, none, p⟩ =
      ⟨rest, active, some (.cycle (active ++ [t.key])), p⟩ := by
    simp only [Walker.step, perform, if_pos hmem]
  rw [Walk.template.eq_def, if_pos hmem]
  refine ⟨hp, Reaches.of_step ?_⟩
  rw [List.singleton_append, hstep]
  exact Reaches.refl finder _

/-- A template that is not active is walked with its key at the end of the chain, and the key is
taken off again however the walk over its nodes ends. -/
theorem does_enter_fresh {t : Template} (hmem : t.key ∉ active) {depth : Nat} {scope : Scope}
    (hbody : Does Kind finder (active ++ [t.key]) [.body scope t.nodes]
      (Walk.nodes finder (Walk.template finder depth (active ++ [t.key])) scope t.nodes)) :
    Does Kind finder active [.enter scope t] (Walk.template finder (depth + 1) active scope t) := by
  intro rest p hp
  have henter : Walker.step finder ⟨.enter scope t :: rest, active, none, p⟩ =
      ⟨.body scope t.nodes :: .leave :: rest, active ++ [t.key], none, p⟩ := by
    simp only [Walker.step, perform, if_neg hmem]
  have hleave : ∀ (fault : Option Fault) (q : Progress L),
      Walker.step finder ⟨.leave :: rest, active ++ [t.key], fault, q⟩ =
        ⟨rest, active, fault, q⟩ := by
    intro fault q
    cases fault <;> simp only [Walker.step, perform, List.dropLast_concat]
  rw [Walk.template, if_neg hmem]
  obtain ⟨hend, hreaches⟩ := hbody (.leave :: rest) p hp
  refine ⟨hend, Reaches.of_step ?_⟩
  rw [List.singleton_append, henter]
  refine hreaches.trans (Reaches.of_step ?_)
  rw [hleave]
  exact Reaches.refl finder _

/-- Entering a template comes to what the walk over it comes to. The depth covers the keys that are
not yet active, of which the template takes one. -/
theorem does_template (hfinder : finder.Within Kind keys) {depth : Nat} (hchain : Chain keys active)
    (hdepth : keys.length ≤ depth + active.length) (scope : Scope) (t : Template)
    (hkey : t.key ∈ keys) :
    Does Kind finder active [.enter scope t] (Walk.template finder depth active scope t) := by
  induction depth generalizing active scope t with
  | zero =>
    by_cases hmem : t.key ∈ active
    · exact does_enter_active hmem 0 scope
    · have hlt := hchain.length_lt hkey hmem
      omega
  | succ depth ih =>
    by_cases hmem : t.key ∈ active
    · exact does_enter_active hmem (depth + 1) scope
    · have henter := ih (hchain.enter hkey hmem) (Chain.depth_enter hdepth t.key)
      exact does_enter_fresh hmem (does_body hfinder henter t.nodes scope)

end

end Walker

/-! ## Renderings -/

/-- The end of a rendering exhausts nothing. -/
theorem Progress.finish_ne_exhausted (p : Progress L) {result : Except Fault Unit}
    (h : result ≠ .error .exhausted) : (p.finish result).1 ≠ .error .exhausted := by
  intro heq
  refine p.expected_of_finish Walk.coversPlain_ne_exhausted (fun fault hfault => ?_) _ heq rfl
  rintro rfl
  exact h hfault

/-- A walker comes to the end of a template, as the rendering does, and it is sound all the way. -/
theorem render_steps {Kind : L → Prop} {keys : List String} {finder : Finder L}
    (hfinder : finder.Within Kind keys) {depth : Nat} (hdepth : keys.length ≤ depth) {t : Template}
    (hkey : t.key ∈ keys) (data : Value) (sink : Sink) {library : L} (hlibrary : Kind library) :
    let after (n : Nat) := (Walker.step finder)^[n] (.ofTemplate t data sink library)
    (∀ n, (after n).Sound Kind keys) ∧
    ∃ n, (after n).agenda = [] ∧ (after n).active = [] ∧
      render finder depth t data sink library = (after n).progress.finish (after n).result := by
  intro after
  have hsound : (Walker.ofTemplate t data sink library).Sound Kind keys :=
    Walker.sound_ofTemplate hkey data sink hlibrary
  refine ⟨hsound.run hfinder, ?_⟩
  obtain ⟨-, n, hn⟩ := Walker.does_template hfinder (Chain.nil keys) hdepth (.ofRoot data) t hkey []
    ⟨sink, {}, [], library⟩ hlibrary
  have hafter : after n = _ := hn
  refine ⟨n, by rw [hafter], by rw [hafter], ?_⟩
  rw [hafter]
  unfold render Walker.result
  rcases Walk.template finder depth [] (.ofRoot data) t ⟨sink, {}, [], library⟩ with ⟨_ | _, q⟩ <;>
    rfl

/-- Templates that are given by name have the keys that they are given with. -/
theorem within_lookupFinder (templates : List (String × Template)) (t : Template) :
    lookupFinder.Within (· = templates) (t.keysWith templates) where
  key := by
    rintro name library found rfl hfound
    exact Template.key_mem_keysWith (Except.ok.inj hfound) t
  fault := by
    rintro name library fault rfl hfault
    cases hfault
  library := id

/-- Every rendering comes to an end after some number of steps, also of templates that include each
other, and its outcome is not that it went too deep. At every step the keys of the templates that
are being rendered are different, and there are no more of them than one and the number of
templates that can be included. -/
theorem renderWith_steps (templates : List (String × Template)) (t : Template) (data : Value)
    (sink : Sink) :
    let after (n : Nat) := (Walker.step lookupFinder)^[n] (.ofTemplate t data sink templates)
    (∃ n, (after n).agenda = [] ∧ (after n).active = [] ∧
      renderWith templates t data sink = (after n).progress.finish (after n).result) ∧
    (renderWith templates t data sink).1 ≠ .error .exhausted ∧
    ∀ n, (after n).active.Nodup ∧ (after n).active.length ≤ 1 + templates.length := by
  intro after
  have hdepth : (t.keysWith templates).length ≤ templates.length + 1 :=
    Nat.le_of_eq (t.length_keysWith templates)
  obtain ⟨hsound, n, hagenda, hactive, hrender⟩ := render_steps (within_lookupFinder templates t)
    hdepth (List.mem_cons_self : t.key ∈ t.keysWith templates) data sink rfl
  refine ⟨⟨n, hagenda, hactive, hrender⟩, ?_, fun m => ⟨(hsound m).chain.nodup, ?_⟩⟩
  -- the run is sound, so it was not exhausted at its end
  · have hfault := (hsound n).fault
    have hresult : (after n).result ≠ .error .exhausted := by
      intro heq
      unfold Walker.result at heq
      split at heq
      · cases heq
      · next hfault' => exact hfault (hfault'.trans (congrArg some (Except.error.inj heq)))
    have hrender : renderWith templates t data sink = (after n).progress.finish (after n).result :=
      hrender
    rw [hrender]
    exact (after n).progress.finish_ne_exhausted hresult
  · have hle : (after m).active.length ≤ (t.keysWith templates).length := (hsound m).chain.length_le
    rw [t.length_keysWith] at hle
    omega

end Mustache
