import Mustache.Proofs.Engine.Faithful
import Mustache.Proofs.Render.Inlining
import Mustache.Proofs.Render.Remarks
import Mustache.Proofs.Template.Concatenation

/-!
# Pages behind pages

A template carries nothing from one node to the next: not a scope, not a key, not a position in its
text. So a text that is put together of two texts is rendered as what the two are rendered as, one
behind the other, and if the first fails, nothing is rendered behind it.

The data may hold no streams. A stream that the first part reads is empty for the second, and would
not be if the second were rendered by itself.
-/

namespace Mustache

variable {L : Type}

namespace Walk

/-- Joined nodes leave the same text as the nodes before the seam and then those behind it. -/
theorem sameWalk_join (finder : Finder L) {enter : Scope → Template → Walk L Unit}
    (henter : ∀ scope t, SameWalk (enter scope t) (enter scope t)) (before after : List Node)
    (scope : Scope) :
    SameWalk (nodes finder enter scope (before ++ after))
      (nodes finder enter scope (Node.join before after)) := by
  induction before with
  | nil => exact sameWalk_nodes finder henter after scope
  | cons first rest ih =>
    cases rest with
    | nil =>
      cases first with
      | text s =>
        rw [Node.join_text]
        exact sameWalk_consText finder henter s after scope
      | _ => exact sameWalk_nodes finder henter _ scope
    | cons next rest =>
      rw [Node.join_cons_cons]
      exact (sameWalk_node finder henter first scope).bind fun _ => ih

/-- Templates of one key leave the text of their joined nodes one behind the other. The key is none
of those being walked for the second either. -/
theorem sameWalk_template_join (finder : Finder L) (depth : Nat) (active : List String)
    (scope : Scope) (key : String) (before after : List Node) :
    SameWalk (template finder depth active scope ⟨key, Node.join before after⟩)
      (template finder depth active scope ⟨key, before⟩ >>= fun _ =>
        template finder depth active scope ⟨key, after⟩) := by
  cases depth with
  | zero =>
    unfold template
    split
    · exact inStep_throw _
    · exact inStep_throw .exhausted
  | succ depth =>
    unfold template
    split
    · exact inStep_throw _
    · have henter (scope : Scope) (t : Template) :
          SameWalk (template finder depth (active ++ [key]) scope t)
            (template finder depth (active ++ [key]) scope t) :=
        sameWalk_template finder depth _ scope rfl rfl
      have hjoin := sameWalk_join finder henter before after scope
      rw [nodes_append] at hjoin
      exact hjoin.symm

end Walk

/-! ## Walks from different beginnings -/

/-- Two walks have done the same to the same data since each had written some text, with libraries
of one kind. Both sinks take everything. -/
structure Progress.Since (Kind : L → Prop) (before before' : String) (p q : Progress L) : Prop where
  text : ∃ more, p.sink.text = before ++ more ∧ q.sink.text = before' ++ more
  memory : p.memory = q.memory
  library : Kind p.library
  library' : Kind q.library
  capacity : p.sink.capacity = none
  capacity' : q.sink.capacity = none
  flushFailure : p.sink.flushFailure = none
  flushFailure' : q.sink.flushFailure = none

/-- Two renderings that have written nothing have written the same since. -/
theorem Progress.since_start {Kind : L → Prop} {l l' : L} (hl : Kind l) (hl' : Kind l') :
    Since Kind "" "" ⟨{}, {}, [], l⟩ ⟨{}, {}, [], l'⟩ :=
  ⟨⟨"", rfl, rfl⟩, rfl, hl, hl', rfl, rfl, rfl, rfl⟩

namespace Walk

variable {Kind : L → Prop} {before before' : String}

/-- Everything that a rendering is put together from writes the same from both, whatever was written
before. -/
theorem congruence_since :
    Congruence fun {_} (w v : Walk L _) => InStep (Progress.Since Kind before before') w v where
  value := inStep_pure
  andThen := InStep.bind
  consult f p q hpq := by
    rw [consult_apply, consult_apply, hpq.memory]
    exact ⟨rfl, { hpq with memory := rfl }⟩
  unsupported := inStep_throw .unsupportedNode
  chunk chunk p q hpq := by
    rw [write_apply hpq.capacity, write_apply hpq.capacity']
    obtain ⟨more, hp, hq⟩ := hpq.text
    refine ⟨rfl, { hpq with text := ⟨more ++ chunk, ?_, ?_⟩ }⟩
    · rw [Sink.text_put, hp, String.append_assoc]
    · rw [Sink.text_put, hq, String.append_assoc]

/-- A walk goes on from different beginnings in the same way, if the data are in the same state. -/
theorem since_template {finder : Finder L} {answer : String → Except Fault (Option Template)}
    (hfinder : finder.Answers answer Kind) (depth : Nat) (active : List String) (scope : Scope)
    (t : Template) :
    InStep (Progress.Since Kind before before') (template finder depth active scope t)
      (template finder depth active scope t) := by
  refine congruence_since.template finder finder (fun _ => inStep_throw _) (inStep_throw _)
    (fun name => ?_) (fun notice p q hpq => ⟨rfl, { hpq with }⟩) depth active scope t
  intro p q hpq
  refine ⟨?_, { hpq with
    library := hfinder.library hpq.library name, library' := hfinder.library hpq.library' name }⟩
  exact (hfinder.template hpq.library name).trans (hfinder.template hpq.library' name).symm

/-- One walk behind another gives what both give by themselves, if the first leaves the data as they
are. -/
theorem since_bind {w v : Walk L Unit}
    (hw : ∀ {before before'}, InStep (Progress.Since Kind before before') w w)
    (hv : ∀ {before before'}, InStep (Progress.Since Kind before before') v v)
    {l l' l'' : L} (hl : Kind l) (hl' : Kind l') (hl'' : Kind l'')
    (hmemory : (w ⟨{}, {}, [], l⟩).2.memory = {}) :
    let first := w ⟨{}, {}, [], l⟩
    let second := v ⟨{}, {}, [], l'⟩
    let both := (w >>= fun _ => v) ⟨{}, {}, [], l''⟩
    both.1 = (first.1 >>= fun _ => second.1) ∧
      both.2.sink.text =
        first.2.sink.text ++ (match first.1 with
          | .ok _ => second.2.sink.text
          | .error _ => "") := by
  intro first second both
  obtain ⟨hresult, hafter⟩ := hw _ _ (Progress.since_start hl hl'')
  -- the first text is the same, whatever library it was rendered with
  have htext : first.2.sink.text = (w ⟨{}, {}, [], l''⟩).2.sink.text := by
    obtain ⟨more, hp, hr⟩ := hafter.text
    rw [hr]
    exact hp
  have hboth : both = _ := bind_apply w (fun _ => v) ⟨{}, {}, [], l''⟩
  rw [hboth, show first.1 = _ from hresult, htext]
  rcases hrun : w ⟨{}, {}, [], l''⟩ with ⟨result, r⟩
  rw [hrun] at hafter
  cases result with
  | error fault => exact ⟨rfl, (String.append_empty).symm⟩
  | ok _ =>
    -- what is written behind the first text counts as written since, from nothing
    have hgap : r.Since Kind r.sink.text "" ⟨{}, {}, [], l'⟩ :=
      { Progress.since_start hl' hl' with
        text := ⟨"", (String.append_empty).symm, rfl⟩
        memory := hafter.memory.symm.trans hmemory
        library := hafter.library', capacity := hafter.capacity'
        flushFailure := hafter.flushFailure' }
    obtain ⟨hend, hfinal⟩ := hv r _ hgap
    obtain ⟨more, hr, hq⟩ := hfinal.text
    have hsecond : second.2.sink.text = more := hq.trans String.empty_append
    refine ⟨hend, ?_⟩
    rw [hsecond]
    exact hr

end Walk

/-! ## Renderings -/

section
variable {Kind : L → Prop} {finder : Finder L}

/-- A rendering ends as its walk does, and leaves the same text and the same data. -/
theorem render_of_template {depth : Nat} {t : Template} {data : Value} {library : L}
    (hflush : (Walk.template finder depth [] (.ofRoot data) t
      ⟨{}, {}, [], library⟩).2.sink.flushFailure = none) :
    let walked := Walk.template finder depth [] (.ofRoot data) t ⟨{}, {}, [], library⟩
    let rendered := render finder depth t data {} library
    rendered.1 = walked.1 ∧ rendered.2.sink.text = walked.2.sink.text ∧
      rendered.2.memory = walked.2.memory := by
  intro walked rendered
  obtain ⟨houtcome, hchunks⟩ := Progress.finish_of_flushFailure_none hflush walked.1
  exact ⟨houtcome, congrArg String.join hchunks, Progress.memory_finish walked.2 walked.1⟩

/-- What joined nodes are rendered as, if the first leave the data as they are. Each of the three
renderings may have a library of its own. -/
theorem render_join {answer : String → Except Fault (Option Template)}
    (hfinder : finder.Answers answer Kind) (depth : Nat) (key : String) (before after : List Node)
    {data : Value} {l l' l'' : L} (hl : Kind l) (hl' : Kind l') (hl'' : Kind l'')
    (hmemory : (render finder depth ⟨key, before⟩ data {} l).2.memory = {}) :
    let first := render finder depth ⟨key, before⟩ data {} l
    let second := render finder depth ⟨key, after⟩ data {} l'
    let whole := render finder depth ⟨key, Node.join before after⟩ data {} l''
    whole.1 = (first.1 >>= fun _ => second.1) ∧
      whole.2.sink.text =
        first.2.sink.text ++ (match first.1 with
          | .ok _ => second.2.sink.text
          | .error _ => "") := by
  intro first second whole
  let walk (body : List Node) : Walk L Unit :=
    Walk.template finder depth [] (.ofRoot data) ⟨key, body⟩
  have hsince (body : List Node) {before before' : String} :
      Walk.InStep (Progress.Since Kind before before') (walk body) (walk body) :=
    Walk.since_template hfinder depth [] (.ofRoot data) ⟨key, body⟩
  have hflush (body : List Node) {l : L} (hl : Kind l) :=
    (hsince body _ _ (Progress.since_start hl hl)).2.flushFailure
  obtain ⟨hfirst, htext, hleft⟩ := render_of_template (hflush before hl)
  obtain ⟨hsecond, htext', -⟩ := render_of_template (hflush after hl')
  obtain ⟨hwhole, hall, -⟩ := render_of_template (hflush (Node.join before after) hl'')
  -- at the seam two texts may have become one, which changes no text that is written
  obtain ⟨hend, hseam⟩ :=
    Walk.sameWalk_template_join finder depth [] (.ofRoot data) key before after
    ⟨{}, {}, [], l''⟩ _ (.refl rfl)
  obtain ⟨hresult, hsum⟩ := Walk.since_bind (hsince before) (hsince after) hl hl' hl''
    (hleft.symm.trans hmemory)
  rw [hfirst, hsecond, htext, htext']
  exact ⟨hwhole.trans (hend.trans hresult), hall.trans (hseam.text.trans hsum)⟩

/-- Data that hold no stream, and in which the names in a template change no buffer, are left as
they are. -/
theorem memory_render {answer : String → Except Fault (Option Template)}
    (hfinder : finder.Answers answer Kind) (depth : Nat) (t : Template) {data : Value}
    (hlasting : data.isLasting = true)
    (hleaves : (∀ name, Node.Mentioned answer t.nodes name → name ∉ Value.Buffer.changing) ∨
      data.isFixed = true) {library : L} (hlibrary : Kind library) :
    (render finder depth t data {} library).2.memory = {} := by
  obtain ⟨Q, hsteady, hdata⟩ : ∃ Q, Value.Steady (Node.Mentioned answer t.nodes) Q ∧ Q data := by
    rcases hleaves with hnames | hfixed
    · exact ⟨_, Value.steady_of_names hnames Value.closed_true, trivial⟩
    · exact ⟨_, Value.steady_isFixed _, hfixed⟩
  obtain ⟨chunks, result, hwalk⟩ := Walk.repeats_template hfinder
    (hsteady.and Value.closed_isLasting) (fun _ h => h.2) (Node.keeps_mentioned answer t.nodes)
    depth [] (Scope.all_ofRoot ⟨hdata, hlasting⟩) fun n hn => .own hn
  obtain ⟨-, hsink, hmemory, -⟩ := hwalk ⟨{}, {}, [], library⟩ ⟨hlibrary, rfl, rfl⟩
  have hflush := congrArg Sink.flushFailure hsink
  exact (render_of_template hflush).2.2.trans hmemory

end

namespace Template

namespace Letter

def opening : String := "Dear {{name}},\n"

def rest : String := "see {{#x}}{{>line}}{{/x}}"

def texts : List (String × String) := [("line", "<{{&.}}>")]

def data : Value := .map [(.text "name", .text "Ann & Bo"), (.text "x", .tuple [.int 1, .null])]

theorem compile_opening :
    compile opening "a" = .ok ⟨"a", [.text "Dear ", .variable "name" true, .text ",\n"]⟩ := by
  with_unfolding_all rfl

theorem compile_rest : compile rest "b" =
    .ok ⟨"b", [.text "see ", .block false "x" [.inclusion "line"]]⟩ := by
  with_unfolding_all rfl

end Letter

end Template

end Mustache
