import Mustache.Proofs.Render.Simulation

/-!
# Inclusions rendered in place

An included template is looked up only when the rendering reaches the tag, and it is rendered with
the scope of that place. As long as no template is included by way of itself, none of this shows:
the chunks and the outcome are those of the tree in which each inclusion has been replaced by the
nodes of its template, and a missing template by nothing.

`Node.Inlined` is the replacement, as a relation that follows the nodes and, at an inclusion, the
nodes of the included template. One induction on it follows the inclusions and the nodes at once.
`Template.Acyclic` is what makes the replacement end, and what keeps the guard against cycles and
the depth of the walk out of the way.
-/

namespace Mustache

/-! ## Ways of inclusion -/

/-- The keys of the templates that are come to, one after the other, on a way that starts at some
nodes and goes on with the nodes of a template that is included there. -/
inductive InclusionPath (templates : List (String × Template)) : List Node → List String → Prop
  | stop (nodes : List Node) : InclusionPath templates nodes []
  | enter {nodes : List Node} {name : String} {t : Template} {path : List String}
      (hname : name ∈ Node.allInclusions nodes) (ht : templates.lookup name = some t)
      (hpath : InclusionPath templates t.nodes path) :
      InclusionPath templates nodes (t.key :: path)

/-- No key comes twice on any way of inclusion that starts at the template. -/
def Template.Acyclic (templates : List (String × Template)) (t : Template) : Prop :=
  ∀ path, InclusionPath templates t.nodes path → (t.key :: path).Nodup

section
variable {templates : List (String × Template)} {keys active : List String} {nodes : List Node}

/-- More nodes have more paths. -/
theorem InclusionPath.mono {more : List Node} {path : List String}
    (h : InclusionPath templates nodes path)
    (hsub : Node.allInclusions nodes ⊆ Node.allInclusions more) :
    InclusionPath templates more path := by
  cases h with
  | stop => exact .stop more
  | enter hname ht hpath => exact .enter (hsub hname) ht hpath

/-- A chain of keys that no way of inclusion from some nodes comes back to. -/
structure Chain.Leads (templates : List (String × Template)) (keys active : List String)
    (nodes : List Node) : Prop where
  chain : Chain keys active
  fresh : ∀ path, InclusionPath templates nodes path → (active ++ path).Nodup

namespace Chain.Leads

/-- A chain that leads to some nodes leads to fewer of them. -/
theorem mono (h : Leads templates keys active nodes) {fewer : List Node}
    (hsub : Node.allInclusions fewer ⊆ Node.allInclusions nodes) :
    Leads templates keys active fewer :=
  ⟨h.chain, fun path hpath => h.fresh path (hpath.mono hsub)⟩

/-- What is included has a new key, and so has all that it leads to. -/
theorem enter (h : Leads templates keys active nodes) {name : String} {t : Template}
    (hname : name ∈ Node.allInclusions nodes) (ht : templates.lookup name = some t)
    (hkey : t.key ∈ keys) :
    t.key ∉ active ∧ Leads templates keys (active ++ [t.key]) t.nodes := by
  have hfresh : t.key ∉ active := by
    have hnodup := h.fresh [t.key] (.enter hname ht (.stop t.nodes))
    intro hmem
    exact (List.nodup_append.1 hnodup).2.2 _ hmem _ (List.mem_singleton_self _) rfl
  refine ⟨hfresh, h.chain.enter hkey hfresh, fun path hpath => ?_⟩
  rw [List.append_assoc, List.singleton_append]
  exact h.fresh _ (.enter hname ht hpath)

end Chain.Leads

end

/-! ## Replacing inclusions -/

namespace Node

/-- Whether a node is neither a block nor an inclusion. -/
def isLeaf : Node → Bool
  | .block .. | .inclusion _ => false
  | _ => true

/-- Nodes, and the same nodes with every inclusion replaced in place by the nodes of its template,
in which the inclusions are replaced likewise, or by nothing if there is no such template. -/
inductive Inlined (templates : List (String × Template)) : List Node → List Node → Prop
  | nil : Inlined templates [] []
  | leaf {first : Node} {rest rest' : List Node} (hfirst : first.isLeaf = true)
      (hrest : Inlined templates rest rest') : Inlined templates (first :: rest) (first :: rest')
  | block {inverted : Bool} {name : String} {body body' rest rest' : List Node}
      (hbody : Inlined templates body body') (hrest : Inlined templates rest rest') :
      Inlined templates (.block inverted name body :: rest) (.block inverted name body' :: rest')
  | found {name : String} {t : Template} {body rest rest' : List Node}
      (ht : templates.lookup name = some t) (hbody : Inlined templates t.nodes body)
      (hrest : Inlined templates rest rest') :
      Inlined templates (.inclusion name :: rest) (body ++ rest')
  | missing {name : String} {rest rest' : List Node} (hname : templates.lookup name = none)
      (hrest : Inlined templates rest rest') : Inlined templates (.inclusion name :: rest) rest'

variable {templates : List (String × Template)}

theorem allInclusions_append (nodes more : List Node) :
    allInclusions (nodes ++ more) = allInclusions nodes ++ allInclusions more := by
  induction nodes with
  | nil => rfl
  | cons first rest ih =>
    rw [List.cons_append, allInclusions, allInclusions, ih, List.append_assoc]

theorem inclusions_of_isLeaf : ∀ {n : Node}, n.isLeaf = true → n.inclusions = []
  | .text _, _ | .variable .., _ | .comment _, _ | .foreign, _ => rfl

namespace Inlined

variable {nodes flat other : List Node}

/-- Nothing is left to be included. -/
theorem allInclusions_eq_nil (h : Inlined templates nodes flat) : allInclusions flat = [] := by
  induction h with
  | nil => rfl
  | leaf hfirst _ ih => rw [allInclusions, inclusions_of_isLeaf hfirst, ih, List.append_nil]
  | block _ _ ihbody ihrest => rw [allInclusions, inclusions, ihbody, ihrest, List.append_nil]
  | found _ _ _ ihbody ihrest => rw [allInclusions_append, ihbody, ihrest, List.append_nil]
  | missing _ _ ih => exact ih

theorem unique (h : Inlined templates nodes flat) (h' : Inlined templates nodes other) :
    flat = other := by
  induction h generalizing other with
  | nil => cases h'; rfl
  | leaf hfirst _ ih =>
    cases h' with
    | leaf _ hrest => rw [ih hrest]
    | block | found | missing => cases hfirst
  | block _ _ ihbody ihrest =>
    cases h' with
    | leaf hfirst => cases hfirst
    | block hbody hrest => rw [ihbody hbody, ihrest hrest]
  | found ht _ _ ihbody ihrest =>
    cases h' with
    | leaf hfirst => cases hfirst
    | found ht' hbody hrest =>
      -- a name has one text
      obtain rfl := Option.some.inj (ht.symm.trans ht')
      rw [ihbody hbody, ihrest hrest]
    | missing hnone => rw [ht] at hnone; cases hnone
  | missing hname _ ih =>
    cases h' with
    | leaf hfirst => cases hfirst
    | found ht => rw [hname] at ht; cases ht
    | missing _ hrest => exact ih hrest

end Inlined

/-- The inclusions of nodes can be replaced if those of the included templates can be. -/
theorem exists_inlined_of : ∀ nodes : List Node,
    (∀ name ∈ allInclusions nodes, ∀ t, templates.lookup name = some t →
      ∃ flat, Inlined templates t.nodes flat) →
    ∃ flat, Inlined templates nodes flat
  | [], _ => ⟨[], .nil⟩
  | first :: rest, h => by
    obtain ⟨rest', hrest⟩ := exists_inlined_of rest fun name hname =>
      h name (List.mem_append_right _ hname)
    have hfirst := fun name (hname : name ∈ inclusions first) =>
      h name (List.mem_append_left _ hname)
    match first with
    | .text _ | .variable .. | .comment _ | .foreign => exact ⟨_, .leaf rfl hrest⟩
    | .block _ _ body =>
      obtain ⟨body', hbody⟩ := exists_inlined_of body hfirst
      exact ⟨_, .block hbody hrest⟩
    | .inclusion name =>
      cases ht : templates.lookup name with
      | none => exact ⟨_, .missing ht hrest⟩
      | some t =>
        obtain ⟨body, hbody⟩ := hfirst name (List.mem_singleton_self name) t ht
        exact ⟨_, .found ht hbody hrest⟩

/-- Replacing comes to an end: each included template makes a chain longer that has only so many
keys to take. -/
theorem exists_inlined {keys : List String}
    (hkeys : ∀ name t, templates.lookup name = some t → t.key ∈ keys) (n : Nat)
    {active : List String} {nodes : List Node}
    (hleads : Chain.Leads templates keys active nodes) (hn : keys.length ≤ n + active.length) :
    ∃ flat, Inlined templates nodes flat := by
  induction n generalizing active nodes with
  | zero =>
    refine exists_inlined_of nodes fun name hname t ht => ?_
    obtain ⟨hfresh, -⟩ := hleads.enter hname ht (hkeys name t ht)
    have hlt := hleads.chain.length_lt (hkeys name t ht) hfresh
    omega
  | succ n ih =>
    refine exists_inlined_of nodes fun name hname t ht => ?_
    obtain ⟨-, hentered⟩ := hleads.enter hname ht (hkeys name t ht)
    exact ih hentered (Chain.depth_enter hn t.key)

end Node

/-! ## Walking what has been replaced -/

namespace Walk

variable {L L' α : Type} {R : L → L' → Prop}

/-- What is told without a warning leaves no trace. -/
theorem Simulates.tell {notice : Notice} (h : notice.level? ≠ some .warning)
    {f : Unit → Walk L α} {v : Walk L' α} (hf : Simulates R (f ()) v) :
    Simulates R (Walk.tell notice >>= f) v := by
  intro p q hpq
  refine hf _ q { hpq with warnings := ?_ }
  have hnone : Notice.warnings [notice] = [] := by simp [Notice.warnings, h]
  rw [Notice.warnings_append, hnone, List.append_nil, hpq.warnings]

theorem nodes_append (finder : Finder L) (enter : Scope → Template → Walk L Unit) (scope : Scope)
    (body more : List Node) :
    nodes finder enter scope (body ++ more) =
      nodes finder enter scope body >>= fun _ => nodes finder enter scope more := by
  induction body with
  | nil => rfl
  | cons first rest ih => rw [List.cons_append, nodes, nodes, ih, bind_assoc]

/-- A node without inclusions in it does not ask the finder. -/
theorem simulates_leaf {finder : Finder L} {finder' : Finder L'}
    {enter : Scope → Template → Walk L Unit} {enter' : Scope → Template → Walk L' Unit}
    (scope : Scope) {n : Node} (hn : n.isLeaf = true) :
    Simulates R (node finder enter scope n) (node finder' enter' scope n) := by
  refine congruence_simulates.node _ _ _ _ n (fun name hname => ?_) scope
  rw [Node.inclusions_of_isLeaf hn] at hname
  cases hname

section
variable {templates : List (String × Template)}
  {enter : Scope → Template → Walk (List (String × Template)) Unit} {scope : Scope} {name : String}

/-- Templates are looked up in a list that stays as it is. -/
def Keeps (templates : List (String × Template)) (l : List (String × Template)) (_ : L) : Prop :=
  l = templates

/-- What is looked up in a list. -/
theorem simulates_lookup {f : Option Template → Walk (List (String × Template)) α} {v : Walk L α}
    (hf : Simulates (Keeps templates) (f (templates.lookup name)) v) :
    Simulates (Keeps templates) (find lookupFinder name >>= f) v := by
  intro p q hpq
  obtain rfl : p.library = templates := hpq.library
  rw [bind_apply, find_lookupFinder]
  exact hf p q hpq

/-- An inclusion is what its template inlines to. -/
theorem simulates_found {t : Template} (ht : templates.lookup name = some t) {v : Walk L Unit}
    (henter : Simulates (Keeps templates) (enter scope t) v) :
    Simulates (Keeps templates) (node lookupFinder enter scope (.inclusion name)) v := by
  refine simulates_lookup ?_
  rw [ht]
  exact Simulates.tell (by simp [Notice.level?]) henter

/-- An inclusion without a template writes nothing. -/
theorem simulates_missing (hname : templates.lookup name = none) :
    Simulates (Keeps templates) (node lookupFinder enter scope (.inclusion name))
      (pure () : Walk L Unit) := by
  refine simulates_lookup ?_
  rw [hname]
  exact simulates_pure ()

end

/-- Walking nodes is walking them with their inclusions replaced, in whatever chain of templates
they stand. -/
theorem simulates_inlined {templates : List (String × Template)} {keys : List String}
    (hkeys : ∀ name t, templates.lookup name = some t → t.key ∈ keys) {body flat : List Node}
    (h : Node.Inlined templates body flat) (finder : Finder L)
    (enter : Scope → Template → Walk L Unit) {depth : Nat} {active : List String}
    (hleads : Chain.Leads templates keys active body) (hdepth : keys.length ≤ depth + active.length)
    (scope : Scope) :
    Simulates (Keeps templates) (nodes lookupFinder (template lookupFinder depth active) scope body)
      (nodes finder enter scope flat) := by
  induction h generalizing depth active scope with
  | nil => exact simulates_pure ()
  | leaf hfirst _ ih =>
    refine (simulates_leaf scope hfirst).bind fun _ => ih (hleads.mono ?_) hdepth scope
    exact List.subset_append_right _ _
  | block _ _ ihbody ihrest =>
    refine (congruence_simulates.block _ _ (fun scope => ihbody (hleads.mono ?_) hdepth scope)
      scope).bind
      fun _ => ihrest (hleads.mono ?_) hdepth scope
    · exact List.subset_append_left _ _
    · exact List.subset_append_right _ _
  -- the chain of active keys leads to the template by a path without repetition, so there is depth
  -- left
  | @found name t body rest rest' ht _ _ ihbody ihrest =>
    obtain ⟨hfresh, hentered⟩ := hleads.enter List.mem_cons_self ht (hkeys name t ht)
    have hlt := hleads.chain.length_lt (hkeys name t ht) hfresh
    obtain ⟨d, rfl⟩ : ∃ d, depth = d + 1 := ⟨depth - 1, by omega⟩
    rw [nodes_append]
    refine (simulates_found ht ?_).bind fun _ => ihrest (hleads.mono ?_) hdepth scope
    · -- the guard against cycles lets the template pass
      rw [template, if_neg hfresh]
      exact ihbody hentered (Chain.depth_enter hdepth t.key) scope
    · exact List.subset_append_right _ _
  | missing hname _ ih =>
    exact (simulates_missing hname).bind fun _ =>
      ih (hleads.mono (List.subset_append_right _ _)) hdepth scope

end Walk

/-- If no template is included by way of itself, each inclusion can be replaced in place by what it
includes, in one way only, and the tree that this gives renders the same chunks with the same
outcome without looking up any template. -/
theorem renderWith_inlined {templates : List (String × Template)} {t : Template}
    (h : t.Acyclic templates) :
    ∃ flat, (∀ other, Node.Inlined templates t.nodes other ↔ other = flat) ∧
      Node.allInclusions flat = [] ∧
      ∀ data sink,
        (renderWith templates t data sink).1 = (renderWith [] ⟨t.key, flat⟩ data sink).1 ∧
        (renderWith templates t data sink).2.sink =
          (renderWith [] ⟨t.key, flat⟩ data sink).2.sink := by
  have hkeys : ∀ name u, templates.lookup name = some u → u.key ∈ t.keysWith templates :=
    fun name u hu => Template.key_mem_keysWith hu t
  have hchain : Chain (t.keysWith templates) [t.key] :=
    (Chain.nil _).enter List.mem_cons_self List.not_mem_nil
  have hleads : Chain.Leads templates (t.keysWith templates) [t.key] t.nodes := ⟨hchain, h⟩
  have hdepth : (t.keysWith templates).length ≤ templates.length + [t.key].length :=
    Nat.le_of_eq (t.length_keysWith templates)
  obtain ⟨flat, hflat⟩ := Node.exists_inlined hkeys templates.length hleads hdepth
  refine ⟨flat, fun other => ⟨fun hother => hother.unique hflat, fun heq => heq ▸ hflat⟩,
    hflat.allInclusions_eq_nil, fun data sink => ?_⟩
  have hwalk := Walk.simulates_inlined hkeys hflat lookupFinder
    (Walk.template lookupFinder 0 [t.key]) hleads hdepth (.ofRoot data)
  obtain ⟨hresult, hafter⟩ := hwalk ⟨sink, {}, [], templates⟩ ⟨sink, {}, [], []⟩
    ⟨rfl, rfl, rfl, rfl⟩
  obtain ⟨houtcome, hend⟩ := hafter.finish hresult
  exact ⟨houtcome, hend.sink⟩

/-! A page of rows, each of which ends in a mark. -/

namespace RowsPage

/-- What a row ends in; the template it includes is missing. -/
def mark : Template := ⟨"mark", [.variable "mark" false, .inclusion "none"]⟩

/-- A row shows the item of the scope that it is included in. -/
def row : Template := ⟨"row", [.text "- ", .variable "." true, .inclusion "mark"]⟩

def templates : List (String × Template) := [("row", row), ("mark", mark)]

def page : Template := ⟨"page", [.block false "items" [.inclusion "row"], .inclusion "mark"]⟩

def data : Value :=
  .map [(.text "items", .list [.text "a", .text "<"]), (.text "mark", .text ".")]

/-- The page with nothing left to be included. -/
def inlined : List Node :=
  [.block false "items" [.text "- ", .variable "." true, .variable "mark" false],
   .variable "mark" false]

theorem path_mark {path : List String} (h : InclusionPath templates mark.nodes path) :
    path = [] := by
  cases h with
  | stop => rfl
  | enter hname ht _ =>
    obtain rfl := List.mem_singleton.1 hname
    cases ht

theorem path_row {path : List String} (h : InclusionPath templates row.nodes path) :
    path = [] ∨ path = ["mark"] := by
  cases h with
  | stop => exact .inl rfl
  | enter hname ht hpath =>
    obtain rfl := List.mem_singleton.1 hname
    cases ht
    rw [path_mark hpath]
    exact .inr rfl

theorem acyclic : page.Acyclic templates := by
  intro path h
  cases h with
  | stop => decide
  | @enter _ name _ _ hname ht hpath =>
    have hname : name = "row" ∨ name = "mark" := by
      simpa [page, Node.allInclusions, Node.inclusions] using hname
    rcases hname with rfl | rfl
    · cases ht
      rcases path_row hpath with rfl | rfl <;> decide
    · cases ht
      rw [path_mark hpath]
      decide

theorem inlined_page : Node.Inlined templates page.nodes inlined :=
  have hmark : Node.Inlined templates mark.nodes [.variable "mark" false] :=
    .leaf rfl (.missing rfl .nil)
  have hrow : Node.Inlined templates row.nodes
      [.text "- ", .variable "." true, .variable "mark" false] :=
    .leaf rfl (.leaf rfl (.found rfl hmark .nil))
  .block (.found rfl hrow .nil) (.found rfl hmark .nil)

end RowsPage

open RowsPage in
/-- A row is included for every item and shows the item of its own turn. -/
theorem renderWith_inlined_rows :
    page.Acyclic templates ∧ Node.Inlined templates page.nodes inlined ∧
    (renderWith [] ⟨page.key, inlined⟩ data {}).2.sink.chunks =
      (renderWith templates page data {}).2.sink.chunks ∧
    (renderWith templates page data {}).2.sink.chunks =
      ["- ", "a", ".", "- ", "&lt;", ".", "."] := by
  obtain ⟨flat, hflat, -, hrender⟩ := renderWith_inlined acyclic
  obtain rfl := (hflat inlined).1 inlined_page
  have hsink := (hrender data {}).2
  exact ⟨acyclic, inlined_page, congrArg Sink.chunks hsink.symm, by decide +kernel⟩

end Mustache
