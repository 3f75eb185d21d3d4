import Mustache.Proofs.Failing
import Mustache.Proofs.Render.Congruence
import Mustache.Proofs.Text.Escape

/-!
# Where chunks come from

A rendering writes nothing of its own. Every chunk is the text of a text node, or what the value of
a variable tag is shown as in the scope that the rendering comes to the tag with.

`Template.Reaches` says which nodes belong to a template and to those that it includes, and
`Template.Visits` says with which scopes a rendering may come to them, and what it may have done to
the data by then. What a walk adds to its sink is followed through the parts of the walk by
`Walk.Adds`. If every variable tag escapes, it follows
that data can add nothing to a page but inert text, from which the text of the value can be read
back.
-/

namespace Mustache

/-! ## Nodes that a rendering may come to -/

namespace Template

/-- The nodes of a template, at any depth, and those of the templates that it includes by way of
others or at once. -/
inductive Reaches (templates : List (String × Template)) (t : Template) : Node → Prop
  | own {n : Node} (h : n ∈ t.nodes) : Reaches templates t n
  | inside {inverted : Bool} {name : String} {body : List Node} {n : Node}
      (hblock : Reaches templates t (.block inverted name body)) (h : n ∈ body) :
      Reaches templates t n
  | included {name : String} {u : Template} {n : Node}
      (hname : Reaches templates t (.inclusion name)) (hu : templates.lookup name = some u)
      (h : n ∈ u.nodes) : Reaches templates t n

end Template

/-- The name that a node resolves. -/
def Node.name? : Node → Option String
  | .variable name _ | .block _ name _ => some name
  | _ => none

namespace Template

/-- A rendering of a template with some data may come to a node with a scope and a memory. A section
brings its value or one of its items into the scope; inverted sections and inclusions leave it as it
is. Whether the value of an inverted section is blank is left open. What is done to the data at one
node is remembered at all others. -/
inductive Visits (templates : List (String × Template)) (t : Template) (data : Value) :
    Scope → Memory → Node → Prop
  | own {n : Node} (h : n ∈ t.nodes) : Visits templates t data (.ofRoot data) {} n
  | single {scope : Scope} {m m' m'' : Memory} {name : String} {body : List Node} {v : Value}
      {n : Node} (hblock : Visits templates t data scope m (.block false name body))
      (hv : scope.look name m = (.ok v, m')) (hpresent : ¬ v.isAbsent)
      (hitems : Memory.items? v m' = (.ok none, m'')) (h : n ∈ body) :
      Visits templates t data (scope.push v) m'' n
  | item {scope : Scope} {m m' m'' : Memory} {name : String} {body : List Node} {v item : Value}
      {items : List Value} {n : Node}
      (hblock : Visits templates t data scope m (.block false name body))
      (hv : scope.look name m = (.ok v, m'))
      (hitems : Memory.items? v m' = (.ok (some items), m'')) (hitem : item ∈ items)
      (h : n ∈ body) : Visits templates t data (scope.push item) m'' n
  | inverted {scope : Scope} {m : Memory} {name : String} {body : List Node} {n : Node}
      (hblock : Visits templates t data scope m (.block true name body)) (h : n ∈ body) :
      Visits templates t data scope m n
  | included {scope : Scope} {m : Memory} {name : String} {u : Template} {n : Node}
      (hname : Visits templates t data scope m (.inclusion name))
      (hu : templates.lookup name = some u) (h : n ∈ u.nodes) : Visits templates t data scope m n
  /-- A name has been looked up at another node. -/
  | looked {scope scope' : Scope} {m : Memory} {name : String} {n n' : Node}
      (h : Visits templates t data scope m n) (hother : Visits templates t data scope' m n')
      (hname : n'.name? = some name) : Visits templates t data scope (scope'.look name m).2 n
  /-- The items of a value have been asked for at another node. -/
  | read {scope scope' : Scope} {m m' : Memory} {inverted : Bool} {name : String}
      {body : List Node} {v : Value} {n : Node} (h : Visits templates t data scope m' n)
      (hother : Visits templates t data scope' m (.block inverted name body))
      (hv : scope'.look name m = (.ok v, m')) :
      Visits templates t data scope (Memory.items? v m').2 n

variable {templates : List (String × Template)} {t : Template} {data : Value} {scope : Scope}
  {m : Memory} {n : Node}

/-- What is visited while rendering is reached in the templates. -/
theorem Visits.reaches (h : t.Visits templates data scope m n) : t.Reaches templates n := by
  induction h with
  | own h => exact .own h
  | single _ _ _ _ h ih => exact .inside ih h
  | item _ _ _ _ h ih => exact .inside ih h
  | inverted _ h ih => exact .inside ih h
  | included _ hu h ih => exact .included ih hu h
  | looked _ _ _ ih => exact ih
  | read _ _ _ ih => exact ih

end Template

/-- A node writes a chunk in a scope, with the data as they are by then. -/
def Node.Gives (scope : Scope) (m : Memory) (chunk : String) : Node → Prop
  | .text s => chunk = s
  | .variable name escape =>
    ∃ v, (scope.look name m).1 = .ok v ∧ v.shown escape = .ok chunk ∧ chunk ≠ ""
  | _ => False

/-! ## What walks add to a sink -/

/-- A chunk that is taken is the last one. -/
theorem Sink.chunks_of_write {s s' : Sink} {chunk : String} (h : s.write chunk = .ok s') :
    s'.chunks = s.chunks ++ [chunk] := by
  rw [eq_of_write h, chunks, chunks, List.reverse_cons]

namespace Walk

section
variable {α β : Type} {templates : List (String × Template)} {t : Template} {data : Value}
  {p : Progress (List (String × Template))}

/-- A chunk is what some node gives with a scope and a memory that a rendering may come to the node
with. -/
def Sourced (templates : List (String × Template)) (t : Template) (data : Value)
    (chunk : String) : Prop :=
  ∃ scope m n, t.Visits templates data scope m n ∧ n.Gives scope m chunk

/-- From some progress on, a walk adds to its sink only chunks that can be traced to nodes, and
behind it a rendering may still come to every node that it could come to before. -/
structure Adds (templates : List (String × Template)) (t : Template) (data : Value)
    (w : Walk (List (String × Template)) α) (p : Progress (List (String × Template))) : Prop where
  library : (w p).2.library = p.library
  visits : ∀ {scope n}, t.Visits templates data scope p.memory n →
    t.Visits templates data scope (w p).2.memory n
  chunks : ∃ chunks, (w p).2.sink.chunks = p.sink.chunks ++ chunks ∧
    ∀ chunk ∈ chunks, Sourced templates t data chunk

/-- What goes on from an answer adds chunks with an origin to chunks with an origin. -/
theorem Adds.bind {w : Walk (List (String × Template)) α}
    {f : α → Walk (List (String × Template)) β} (h : Adds templates t data w p)
    (hf : ∀ a, (w p).1 = .ok a → Adds templates t data (f a) (w p).2) :
    Adds templates t data (w >>= f) p := by
  obtain ⟨hlibrary, hvisits, chunks, hchunks, hsourced⟩ := h
  rcases hw : w p with ⟨_ | a, q⟩
  · rw [hw] at hlibrary hvisits hchunks
    refine ⟨?_, ?_, chunks, ?_, hsourced⟩ <;> rw [bind_apply, hw]
    · exact hlibrary
    · exact hvisits
    · exact hchunks
  · rw [hw] at hlibrary hvisits hchunks
    obtain ⟨hlibrary', hvisits', more, hmore, hsourced'⟩ := hw ▸ hf a (by rw [hw])
    refine ⟨?_, ?_, chunks ++ more, ?_, List.forall_mem_append.2 ⟨hsourced, hsourced'⟩⟩ <;>
      rw [bind_apply, hw]
    · exact hlibrary'.trans hlibrary
    · exact fun h => hvisits' (hvisits h)
    · rw [hmore, hchunks, List.append_assoc]

/-- A walk that leaves its sink, its library and its memory as they are. -/
theorem adds_of_silent {w : Walk (List (String × Template)) α}
    (h : (w p).2.library = p.library ∧ (w p).2.sink = p.sink ∧ (w p).2.memory = p.memory) :
    Adds templates t data w p := by
  obtain ⟨hlibrary, hsink, hmemory⟩ := h
  exact ⟨hlibrary, hmemory.symm ▸ id, [], by rw [hsink, List.append_nil], by simp⟩

theorem adds_pure (a : α) : Adds templates t data (pure a) p := adds_of_silent ⟨rfl, rfl, rfl⟩

theorem adds_throw (fault : Fault) :
    Adds templates t data (throw fault : Walk (List (String × Template)) α) p :=
  adds_of_silent ⟨rfl, rfl, rfl⟩

theorem adds_tell (notice : Notice) : Adds templates t data (tell notice) p :=
  adds_of_silent ⟨rfl, rfl, rfl⟩

theorem adds_ofExcept (x : Except Failure α) : Adds templates t data (ofExcept x) p :=
  adds_of_silent ⟨rfl, rfl, rfl⟩

/-- Writing adds its chunk, so it is its origin that matters. -/
theorem adds_write {chunk : String} (h : Sourced templates t data chunk) :
    Adds templates t data (write chunk) p := by
  cases hwrite : p.sink.write chunk with
  | error failure =>
    have hrun : write chunk p = (.error (.ofSink .writing failure), p) := by rw [write, hwrite]
    exact adds_of_silent (by rw [hrun]; exact ⟨rfl, rfl, rfl⟩)
  | ok sink =>
    have hrun : write chunk p = (.ok (), { p with sink }) := by rw [write, hwrite]
    refine ⟨?_, ?_, [chunk], ?_, List.forall_mem_singleton.2 h⟩ <;> rw [hrun]
    · exact id
    · exact Sink.chunks_of_write hwrite

/-- Something done with the memory, behind which all that could be come to still can. -/
theorem adds_consult {f : Memory → Except Failure α × Memory}
    (h : ∀ {scope n}, t.Visits templates data scope p.memory n →
      t.Visits templates data scope (f p.memory).2 n) :
    Adds templates t data (consult f) p :=
  ⟨rfl, h, [], (List.append_nil _).symm, by simp⟩

theorem adds_resolve {scope : Scope} {n : Node} {name : String}
    (h : t.Visits templates data scope p.memory n) (hname : n.name? = some name) :
    Adds templates t data (resolve scope name) p :=
  adds_consult fun hother => hother.looked h hname

/-- Looking for items adds no chunk; it may use up a stream, and what was visited is still visited
then. -/
theorem adds_isBlank {v : Value}
    (h : ∀ {scope n}, t.Visits templates data scope p.memory n →
      t.Visits templates data scope (Memory.items? v p.memory).2 n) :
    Adds templates t data (isBlank v) p := by
  unfold isBlank
  split
  · exact adds_pure true
  · refine (adds_consult h).bind fun items? _ => ?_
    cases items? with
    | none => exact adds_pure false
    | some items => exact adds_pure items.isEmpty

theorem look_of_resolve {scope : Scope} {name : String} {v : Value}
    (h : (resolve scope name p).1 = .ok v) :
    scope.look name p.memory = (.ok v, (resolve scope name p).2.memory) :=
  Prod.ext (mapError_eq_ok_iff.1 h) rfl

theorem items_of_items? {v : Value} {items? : Option (List Value)}
    (h : (Walk.items? v p).1 = .ok items?) :
    Memory.items? v p.memory = (.ok items?, (Walk.items? v p).2.memory) :=
  Prod.ext (mapError_eq_ok_iff.1 h) rfl

end

/-! ## The walk over nodes -/

section
variable {templates : List (String × Template)} {t : Template} {data : Value}
  {enter : Scope → Template → Walk (List (String × Template)) Unit}
  {p : Progress (List (String × Template))}

/-- What is asked of a walk over included templates. -/
def EntersWell (templates : List (String × Template)) (t : Template) (data : Value)
    (enter : Scope → Template → Walk (List (String × Template)) Unit) : Prop :=
  ∀ scope u p, p.library = templates →
    (∀ n ∈ u.nodes, t.Visits templates data scope p.memory n) →
    Adds templates t data (enter scope u) p

/-- A variable tag adds the text of the value that its name stands for. -/
theorem adds_variable {scope : Scope} {name : String} {escape : Bool}
    (h : t.Visits templates data scope p.memory (.variable name escape)) :
    Adds templates t data (node lookupFinder enter scope (.variable name escape)) p := by
  refine (adds_resolve h rfl).bind fun v hv => (adds_ofExcept _).bind fun shown hshown => ?_
  split
  · exact adds_pure ()
  · next hne =>
    have hlook := look_of_resolve hv
    exact adds_write ⟨scope, _, _, h, v, by rw [hlook], mapError_eq_ok_iff.1 hshown, hne⟩

/-- An inclusion adds what its template adds on the same scope. -/
theorem adds_inclusion (henter : EntersWell templates t data enter) {scope : Scope} {name : String}
    (hp : p.library = templates) (h : t.Visits templates data scope p.memory (.inclusion name)) :
    Adds templates t data (node lookupFinder enter scope (.inclusion name)) p := by
  have hfind := find_lookupFinder name p
  refine Adds.bind (adds_of_silent (by rw [hfind]; exact ⟨rfl, rfl, rfl⟩)) fun found hfound => ?_
  rw [hfind] at hfound ⊢
  obtain rfl := Except.ok.inj hfound
  cases hu : p.library.lookup name with
  | none => exact adds_pure ()
  | some u =>
    rw [hp] at hu
    exact (adds_tell _).bind fun _ _ =>
      henter scope u _ hp fun n hn => .included h hu hn

/-- Over the items of a section a walk may come to the body with each of them. -/
theorem adds_forM {f : Value → Walk (List (String × Template)) Unit} {body : List Node}
    {scope : Scope} {items : List Value}
    (hf : ∀ item ∈ items, ∀ q : Progress (List (String × Template)), q.library = templates →
      (∀ n ∈ body, t.Visits templates data (scope.push item) q.memory n) →
      Adds templates t data (f item) q)
    (hp : p.library = templates) (h : ∀ item ∈ items, ∀ n ∈ body,
      t.Visits templates data (scope.push item) p.memory n) :
    Adds templates t data (items.forM f) p := by
  induction items generalizing p with
  | nil => exact adds_pure ()
  | cons item items ih =>
    obtain ⟨hitem, hitems⟩ := List.forall_mem_cons.1 hf
    obtain ⟨hvisits, hmore⟩ := List.forall_mem_cons.1 h
    have hfirst := hitem p hp hvisits
    exact hfirst.bind fun _ _ => ih hitems (hfirst.library.trans hp) fun item hmem n hn =>
      hfirst.visits (hmore item hmem n hn)

mutual

/-- Walking a node adds what can be traced to nodes. -/
theorem adds_node (henter : EntersWell templates t data enter) : (n : Node) → {scope : Scope} →
    {p : Progress (List (String × Template))} → p.library = templates →
    t.Visits templates data scope p.memory n →
    Adds templates t data (node lookupFinder enter scope n) p
  | .text s, scope, _, _, h => adds_write ⟨scope, _, .text s, h, rfl⟩
  | .variable _ _, _, _, _, h => adds_variable h
  | .block false name body, scope, p, hp, h => by
    refine (adds_resolve h rfl).bind fun v hv => ?_
    have hlook := look_of_resolve hv
    split
    · exact adds_pure ()
    · next hpresent =>
      -- the body is walked with the value, or with such of its items as are still given
      refine Adds.bind (adds_consult fun hother => hother.read h hlook) fun items? hitems => ?_
      have hitems := items_of_items? hitems
      cases items? with
      | none => exact adds_nodes henter body hp fun n hn => .single h hlook hpresent hitems hn
      | some items =>
        exact adds_forM (fun item _ q hq hvisits => adds_nodes henter body hq hvisits) hp
          fun item hitem n hn => .item h hlook hitems hitem hn
  | .block true name body, scope, p, hp, h => by
    refine (adds_resolve h rfl).bind fun v hv => ?_
    have hlook := look_of_resolve hv
    -- asking whether the value is blank may read a stream, but writes nothing
    have hblank := adds_isBlank (v := v) fun hother => hother.read h hlook
    refine hblank.bind fun blank _ => ?_
    split
    · have hstays := hblank.visits (h.looked h rfl)
      exact adds_nodes henter body (hblank.library.trans hp) fun n hn => .inverted hstays hn
    · exact adds_pure ()
  | .inclusion _, _, _, hp, h => adds_inclusion henter hp h
  | .comment _, _, _, _, _ => adds_pure ()
  | .foreign, _, _, _, _ => adds_throw .unsupportedNode

/-- Walking nodes adds what can be traced to nodes. -/
theorem adds_nodes (henter : EntersWell templates t data enter) : (body : List Node) →
    {scope : Scope} → {p : Progress (List (String × Template))} → p.library = templates →
    (∀ n ∈ body, t.Visits templates data scope p.memory n) →
    Adds templates t data (nodes lookupFinder enter scope body) p
  | [], _, _, _, _ => adds_pure ()
  | first :: rest, scope, p, hp, h => by
    obtain ⟨hfirst, hrest⟩ := List.forall_mem_cons.1 h
    have hadds := adds_node henter first hp hfirst
    exact hadds.bind fun _ _ =>
      adds_nodes henter rest (hadds.library.trans hp) fun n hn => hadds.visits (hrest n hn)

end

end

/-! ## The walk over templates -/

/-- Walking a template adds what can be traced to nodes, however deep it may go. -/
theorem adds_template {templates : List (String × Template)} {t : Template} {data : Value}
    (depth : Nat) (active : List String) :
    EntersWell templates t data (template lookupFinder depth active) := by
  induction depth generalizing active with
  | zero =>
    intro scope u p hp _
    unfold template
    split
    · exact adds_throw _
    · exact adds_throw .exhausted
  | succ depth ih =>
    intro scope u p hp hu
    unfold template
    split
    · exact adds_throw _
    · exact adds_nodes (ih _) u.nodes hp hu

end Walk

theorem Sink.chunks_flush (s : Sink) : s.flush.2.chunks = s.chunks := by
  unfold flush
  split <;> rfl

/-- The end of a rendering writes nothing. -/
theorem Progress.chunks_finish {L : Type} (p : Progress L) (result : Except Fault Unit) :
    (p.finish result).2.sink.chunks = p.sink.chunks := by
  rw [← p.sink.chunks_flush]
  unfold Progress.finish
  rcases p.sink.flush with ⟨_ | failure, sink⟩
  · rfl
  · cases result with
    | ok _ => rfl
    | error fault =>
      dsimp only
      split <;> rfl

/-- Every chunk that a rendering writes can be traced to a node. -/
theorem renderWith_sourced (templates : List (String × Template)) (t : Template) (data : Value)
    (sink : Sink) :
    ∃ chunks, (renderWith templates t data sink).2.sink.chunks = sink.chunks ++ chunks ∧
      ∀ chunk ∈ chunks, Walk.Sourced templates t data chunk := by
  obtain ⟨-, -, chunks, hchunks, hsourced⟩ := Walk.adds_template (templates.length + 1) []
    (.ofRoot data) t ⟨sink, {}, [], templates⟩ rfl fun n hn => .own hn
  refine ⟨chunks, ?_, hsourced⟩
  rw [renderWith, render, ← hchunks]
  exact Progress.chunks_finish _ _

/-! ## Pages on which every variable tag escapes -/

/-- What a variable tag that escapes writes is the text of the value, escaped. -/
theorem Value.text?_of_shown {v : Value} {chunk : String} (h : v.shown true = .ok chunk)
    (hne : chunk ≠ "") : ∃ shown, v.text? = .ok shown ∧ Text.escape shown = chunk := by
  cases v with
  | null =>
    -- an absent value has no text, and the empty one is not written
    exact absurd (Except.ok.inj h).symm hne
  | _ => exact map_eq_ok_iff.1 h

/-- If no variable tag that the rendering can come to writes its value as it is, data cannot bring
markup into a page: every chunk that is written is the text of a text node, or else it is inert and
the text of a value can be read back from it. The text is escaped by replacing the special
characters one after the other. -/
theorem renderWith_inert {templates : List (String × Template)} {t : Template}
    (h : ∀ name, ¬ t.Reaches templates (.variable name false)) (data : Value) (sink : Sink) :
    ∃ chunks, (renderWith templates t data sink).2.sink.chunks = sink.chunks ++ chunks ∧
      ∀ chunk ∈ chunks, t.Reaches templates (.text chunk) ∨
        ∃ scope m name v shown, t.Visits templates data scope m (.variable name true) ∧
          (scope.look name m).1 = .ok v ∧ v.text? = .ok shown ∧
          Text.Inert chunk.toList ∧ Text.unescape chunk = shown ∧
          chunk.toList = Text.replaceInTurn shown.toList := by
  obtain ⟨chunks, hchunks, hsourced⟩ := renderWith_sourced templates t data sink
  refine ⟨chunks, hchunks, fun chunk hchunk => ?_⟩
  obtain ⟨scope, m, n, hvisits, hgives⟩ := hsourced chunk hchunk
  match n, hgives with
  | .text s, hchunk =>
    obtain rfl : chunk = s := hchunk
    exact .inl hvisits.reaches
  | .variable name false, _ => exact absurd hvisits.reaches (h name)
  | .variable name true, ⟨v, hv, hshown, hne⟩ =>
    obtain ⟨shown, htext, rfl⟩ := Value.text?_of_shown hshown hne
    refine .inr ⟨scope, m, name, v, shown, hvisits, hv, htext, ?_, Text.unescape_escape shown, ?_⟩
    · rw [Text.toList_escape]
      exact Text.inert_escapeChars shown.toList
    · rw [Text.toList_escape, Text.replaceInTurn_eq_escapeChars]

/-! A list of items, each of which is a page of its own. -/

namespace ItemList

def row : Template := ⟨"row", [.text "<li>", .variable "." true]⟩

def templates : List (String × Template) := [("row", row)]

def page : Template :=
  ⟨"page", [.block false "items" [.inclusion "row"], .variable "owner" true]⟩

/-- Items with markup in them, one of them in a list of its own. -/
def data : Value :=
  .map [(.text "items", .list [.text "<b>", .list [.text "you & me"]]),
    (.text "owner", .text "\"x\"")]

theorem mem_of_reaches {n : Node} (h : page.Reaches templates n) :
    n ∈ page.nodes ∨ n = .inclusion "row" ∨ n ∈ row.nodes := by
  induction h with
  | own h => exact .inl h
  | inside _ h ih =>
    obtain ⟨rfl, rfl, rfl⟩ : _ = false ∧ _ = "items" ∧ _ = _ := by simpa [page, row] using ih
    exact .inr (.inl (List.mem_singleton.1 h))
  | included _ hu h ih =>
    obtain rfl : _ = "row" := by simpa [page, row] using ih
    cases hu
    exact .inr (.inr h)

theorem escapes (name : String) : ¬ page.Reaches templates (.variable name false) := by
  intro h
  simpa [page, row] using mem_of_reaches h

end ItemList

open ItemList in
/-- The markup of a list item comes out as text; that of the row itself stays. -/
theorem renderWith_inert_rows :
    (∀ name, ¬ page.Reaches templates (.variable name false)) ∧
    (renderWith templates page data {}).2.sink.chunks =
      ["<li>", "&lt;b&gt;", "<li>", "[&#x27;you &amp; me&#x27;]", "&quot;x&quot;"] ∧
    ∀ chunk ∈ (renderWith templates page data {}).2.sink.chunks,
      page.Reaches templates (.text chunk) ∨
        ∃ scope m name v shown, page.Visits templates data scope m (.variable name true) ∧
          (scope.look name m).1 = .ok v ∧ v.text? = .ok shown ∧
          Text.Inert chunk.toList ∧ Text.unescape chunk = shown ∧
          chunk.toList = Text.replaceInTurn shown.toList := by
  obtain ⟨chunks, hchunks, hinert⟩ := renderWith_inert escapes data {}
  refine ⟨escapes, by decide +kernel, ?_⟩
  rw [hchunks]
  exact hinert

end Mustache
