import Mustache.Proofs.Render.InStep
import Mustache.Proofs.Template.Insertion

/-!
# Remarks are not rendered

A sink that takes everything does not show in how many pieces a text was written, and a comment
writes nothing. So what nodes are rendered to, and what goes wrong with them, depends only on the
nodes without their remarks, the texts between them joined. A remark that stands alone on its line
is then as good as no line at all.

Two walks are compared by the text in their sinks and not by the chunks.
-/

namespace Mustache

variable {L α : Type}

/-- The same progress, apart from how the text in the sinks was cut into chunks; both sinks take
everything. -/
structure Progress.SameText (p q : Progress L) : Prop where
  text : p.sink.text = q.sink.text
  takesAll : p.sink.capacity = none
  takesAll' : q.sink.capacity = none
  flushes : p.sink.flushes = q.sink.flushes
  flushFailure : p.sink.flushFailure = q.sink.flushFailure
  memory : p.memory = q.memory
  notices : p.notices = q.notices
  library : p.library = q.library

namespace Progress.SameText

variable {p q r : Progress L}

theorem symm (h : SameText p q) : SameText q p :=
  ⟨h.text.symm, h.takesAll', h.takesAll, h.flushes.symm, h.flushFailure.symm, h.memory.symm,
    h.notices.symm, h.library.symm⟩

theorem trans (h : SameText p q) (h' : SameText q r) : SameText p r :=
  ⟨h.text.trans h'.text, h.takesAll, h'.takesAll', h.flushes.trans h'.flushes,
    h.flushFailure.trans h'.flushFailure, h.memory.trans h'.memory, h.notices.trans h'.notices,
    h.library.trans h'.library⟩

theorem refl (h : p.sink.capacity = none) : SameText p p := ⟨rfl, h, h, rfl, rfl, rfl, rfl, rfl⟩

end Progress.SameText

namespace Sink

theorem text_put (s : Sink) (chunk : String) : (s.put chunk).text = s.text ++ chunk := by
  simp [put, text, chunks, String.join, List.foldl_append]

end Sink

namespace Walk

/-- The walks end alike and leave the same text. -/
abbrev SameWalk (w v : Walk L α) : Prop := InStep Progress.SameText w v

/-! ## Walks that leave the same text -/

theorem SameWalk.symm {w v : Walk L α} (h : SameWalk w v) : SameWalk v w := by
  intro p q hpq
  obtain ⟨hresult, hafter⟩ := h q p hpq.symm
  exact ⟨hresult.symm, hafter.symm⟩

theorem SameWalk.trans {w v u : Walk L α} (h : SameWalk w v) (h' : SameWalk v u) :
    SameWalk w u := by
  intro p q hpq
  obtain ⟨hresult, hafter⟩ := h p q hpq
  -- the walk in the middle may start where the last one does
  obtain ⟨hresult', hafter'⟩ := h' q q (.refl hpq.takesAll')
  exact ⟨hresult.trans hresult', hafter.trans hafter'⟩

/-- Writing the same chunk on both sides leaves the same text. -/
theorem sameWalk_write (chunk : String) : SameWalk (write chunk : Walk L Unit) (write chunk) := by
  intro p q hpq
  rw [write_apply hpq.takesAll, write_apply hpq.takesAll']
  refine ⟨rfl, { hpq with text := ?_ }⟩
  rw [Sink.text_put, Sink.text_put, hpq.text]

/-- A text may be written in two pieces. -/
theorem sameWalk_write_append (s t : String) :
    SameWalk (write (s ++ t) : Walk L Unit) (write s >>= fun _ => write t) := by
  intro p q hpq
  have hpieces : (write s >>= fun _ => write t : Walk L Unit) q =
      (.ok (), { q with sink := (q.sink.put s).put t }) := by
    rw [bind_apply, write_apply hpq.takesAll']
    exact write_apply (p := { q with sink := q.sink.put s }) hpq.takesAll' t
  rw [hpieces, write_apply hpq.takesAll]
  refine ⟨rfl, { hpq with text := ?_ }⟩
  rw [Sink.text_put, Sink.text_put, Sink.text_put, hpq.text, String.append_assoc]

theorem sameWalk_consult (f : Memory → Except Failure α × Memory) :
    SameWalk (consult f : Walk L α) (consult f) := by
  intro p q hpq
  rw [consult_apply, consult_apply, hpq.memory]
  exact ⟨rfl, { hpq with memory := rfl }⟩

theorem sameWalk_find (finder : Finder L) (name : String) :
    SameWalk (find finder name) (find finder name) := by
  intro p q hpq
  simp only [find, hpq.library]
  exact ⟨trivial, { hpq with library := rfl, notices := congrArg (· ++ _) hpq.notices }⟩

theorem sameWalk_tell (notice : Notice) : SameWalk (tell notice : Walk L Unit) (tell notice) :=
  fun _ _ hpq => ⟨rfl, { hpq with notices := congrArg (· ++ [notice]) hpq.notices }⟩

/-- What a walk does apart from inclusions leaves the same text as itself. -/
theorem congruence_sameWalk : Congruence fun {_} (w v : Walk L _) => SameWalk w v where
  value := inStep_pure
  andThen := InStep.bind
  consult := sameWalk_consult
  unsupported := inStep_throw .unsupportedNode
  chunk := sameWalk_write

/-! ## Nodes without their remarks -/

section
variable (finder : Finder L) {enter : Scope → Template → Walk L Unit}
  (henter : ∀ scope t, SameWalk (enter scope t) (enter scope t))
include henter

theorem sameWalk_inclusion (name : String) (scope : Scope) :
    SameWalk (node finder enter scope (.inclusion name))
      (node finder enter scope (.inclusion name)) := by
  refine (sameWalk_find finder name).bind fun found => ?_
  cases found with
  | none => exact inStep_pure ()
  | some t => exact (sameWalk_tell _).bind fun _ => henter scope t

theorem sameWalk_node (n : Node) (scope : Scope) :
    SameWalk (node finder enter scope n) (node finder enter scope n) :=
  congruence_sameWalk.node _ _ _ _ n (fun name _ => sameWalk_inclusion finder henter name) scope

theorem sameWalk_nodes (body : List Node) (scope : Scope) :
    SameWalk (nodes finder enter scope body) (nodes finder enter scope body) :=
  congruence_sameWalk.nodes _ _ _ _ body (fun name _ => sameWalk_inclusion finder henter name) scope

/-- A text may run on into the text behind it. -/
theorem sameWalk_consText (s : String) (body : List Node) (scope : Scope) :
    SameWalk (nodes finder enter scope (.text s :: body))
      (nodes finder enter scope (Node.consText s body)) := by
  unfold Node.consText
  split
  · next t rest =>
    have hwritten := (sameWalk_write_append (L := L) s t).bind fun _ =>
      sameWalk_nodes finder henter rest scope
    rw [bind_assoc] at hwritten
    exact SameWalk.symm hwritten
  · exact sameWalk_nodes finder henter _ scope

/-- Two texts in a row write what they write when joined. -/
theorem sameWalk_onto (first : Node) (body : List Node) (scope : Scope) :
    SameWalk (nodes finder enter scope (first :: body))
      (nodes finder enter scope (first.onto body)) := by
  cases first with
  | text s => exact sameWalk_consText finder henter s body scope
  | comment s => exact sameWalk_nodes finder henter body scope
  | «variable» name escape => exact sameWalk_nodes finder henter _ scope
  | block inverted name inside => exact sameWalk_nodes finder henter _ scope
  | inclusion name => exact sameWalk_nodes finder henter _ scope
  | foreign => exact sameWalk_nodes finder henter _ scope

mutual

/-- A node leaves the same text without the remarks in its body. -/
theorem sameWalk_bare : ∀ (n : Node) (scope : Scope),
    SameWalk (node finder enter scope n) (node finder enter scope n.bare)
  | .block inverted name body, scope =>
    congruence_sameWalk.block inverted name (sameWalk_bareAll body) scope
  | .text _, scope => sameWalk_node finder henter _ scope
  | .variable _ _, scope => sameWalk_node finder henter _ scope
  | .inclusion _, scope => sameWalk_node finder henter _ scope
  | .comment _, scope => sameWalk_node finder henter _ scope
  | .foreign, scope => sameWalk_node finder henter _ scope

/-- Nodes leave the same text without their remarks. -/
theorem sameWalk_bareAll : ∀ (body : List Node) (scope : Scope),
    SameWalk (nodes finder enter scope body) (nodes finder enter scope (Node.bareAll body))
  | [], _ => inStep_pure ()
  | first :: rest, scope => by
    have hbare : SameWalk (nodes finder enter scope (first :: rest))
        (nodes finder enter scope (first.bare :: Node.bareAll rest)) :=
      (sameWalk_bare first scope).bind fun _ => sameWalk_bareAll rest scope
    exact hbare.trans (sameWalk_onto finder henter first.bare (Node.bareAll rest) scope)

end

end

/-- Templates with the same key, and with the same nodes but for remarks, leave the same text. -/
theorem sameWalk_template (finder : Finder L) (depth : Nat) (active : List String) (scope : Scope)
    {t t' : Template} (hkey : t'.key = t.key)
    (hbare : Node.bareAll t'.nodes = Node.bareAll t.nodes) :
    SameWalk (template finder depth active scope t) (template finder depth active scope t') := by
  induction depth generalizing active scope t t' with
  | zero =>
    unfold template
    rw [hkey]
    split
    · exact inStep_throw _
    · exact inStep_throw _
  | succ depth ih =>
    unfold template
    rw [hkey]
    split
    · exact inStep_throw _
    · -- whatever template is included is included on both sides
      have henter (scope : Scope) (u : Template) :
          SameWalk (template finder depth (active ++ [t.key]) scope u)
            (template finder depth (active ++ [t.key]) scope u) := ih _ scope rfl rfl
      have hnodes := sameWalk_bareAll finder henter t.nodes scope
      rw [← hbare] at hnodes
      exact hnodes.trans (sameWalk_bareAll finder henter t'.nodes scope).symm

end Walk

/-! ## Renderings -/

namespace Progress.SameText

variable {p q : Progress L}

/-- A flush does not look at how the text was cut into chunks. -/
theorem flush (h : SameText p q) :
    p.sink.flush.1 = q.sink.flush.1 ∧
      SameText { p with sink := p.sink.flush.2 } { q with sink := q.sink.flush.2 } := by
  have hflushes := h.flushes
  cases hq : q.sink.flushes with
  | none =>
    rw [hq] at hflushes
    simp only [Sink.flush, hflushes, hq]
    exact ⟨trivial, h⟩
  | some n =>
    rw [hq] at hflushes
    simp only [Sink.flush, hflushes, hq]
    exact ⟨h.flushFailure, { h with flushes := rfl }⟩

/-- The end of a rendering does not tell chunks apart either. -/
theorem finish (h : SameText p q) (result : Except Fault Unit) :
    (p.finish result).1 = (q.finish result).1 ∧
      SameText (p.finish result).2 (q.finish result).2 := by
  obtain ⟨hfailure, hafter⟩ := h.flush
  unfold Progress.finish
  rcases hp : p.sink.flush with ⟨failure?, sink⟩
  rcases hq : q.sink.flush with ⟨failure?', sink'⟩
  rw [hp, hq] at hfailure hafter
  obtain rfl : failure? = failure?' := hfailure
  cases failure? with
  | none => exact ⟨rfl, hafter⟩
  | some failure =>
    cases result with
    | ok _ => exact ⟨rfl, hafter⟩
    | error fault =>
      dsimp only
      split
      · exact ⟨rfl, { hafter with notices := congrArg (· ++ _) hafter.notices }⟩
      · exact ⟨rfl, hafter⟩

end Progress.SameText

namespace Template

/-- Two templates that render alike, whatever the data, the library and the sink are, as long as the
sink takes everything: to the same result, and to the same text up to there. -/
def RendersAs (t u : Template) : Prop :=
  ∀ (Library : Type) (finder : Finder Library) (depth : Nat) (data : Value) (sink : Sink)
    (library : Library), sink.capacity = none →
    (render finder depth t data sink library).1 = (render finder depth u data sink library).1 ∧
      (render finder depth t data sink library).2.SameText
        (render finder depth u data sink library).2

/-- Templates that are the same without remarks are rendered alike. -/
theorem rendersAs_of_bare {t u : Template} (hkey : u.key = t.key)
    (hbare : Node.bareAll u.nodes = Node.bareAll t.nodes) : t.RendersAs u := by
  intro Library finder depth data sink library hcapacity
  have hwalk := Walk.sameWalk_template finder depth [] (.ofRoot data) hkey hbare
  obtain ⟨hresult, hafter⟩ := hwalk ⟨sink, {}, [], library⟩ _ (.refl hcapacity)
  rw [render_eq_finish, render_eq_finish, hresult]
  exact hafter.finish _

/-- A comment or a pragma that stands alone on its line changes nothing, whether sections are open
there or not. With the line put in behind the whole lines `a`, a text compiles if it did before, and
renders as before; if it does not compile, the reason is the same, one line further down if it lies
behind `a`. -/
theorem compile_insert_remark (l : RemarkLine) {a : String}
    (ha : a = "" ∨ a.toList.getLast? = some '\n') (b name : String) :
    match compile (a ++ b) name, compile (a ++ l.text ++ b) name with
    | .ok t, .ok u => (name ≠ "" → u.key = t.key) ∧
        ∀ key, RendersAs ⟨key, t.nodes⟩ ⟨key, u.nodes⟩
    | .error e, .error e' => e'.problem.message = e.problem.message ∧ e'.template = e.template ∧
        e'.line = if e.line ≤ (Line.split a.toList).length then e.line else e.line + 1
    | _, _ => False := by
  have hparse := parse_insert l ha b
  unfold compile
  cases hshort : parse (a ++ b) with
  | error e =>
    rw [hshort] at hparse
    cases hlong : parse (a ++ l.text ++ b) with
    | ok nodes => rw [hlong] at hparse; exact hparse
    | error e' =>
      rw [hlong] at hparse
      have hnamed := Node.SaysAgain.named hparse name
      exact ⟨hnamed.message, hnamed.template, hnamed.line⟩
  | ok nodes =>
    rw [hshort] at hparse
    cases hlong : parse (a ++ l.text ++ b) with
    | error e' => rw [hlong] at hparse; exact hparse
    | ok nodes' =>
      rw [hlong] at hparse
      -- the trees differ in remarks and in how texts are cut only
      have hbare : Node.bareAll nodes' = Node.bareAll nodes := hparse
      refine ⟨?_, fun key => rendersAs_of_bare rfl hbare⟩
      intro hname
      show (if name = "" then _ else name) = if name = "" then _ else name
      rw [if_neg hname, if_neg hname]

/-- A comment with half a tag in its words, between blanks that are no spaces. -/
def noteLine : RemarkLine where
  before := ['\u2003', '\t']
  sigil := '!'
  words := [' ', '{', '{', '/', 'x']
  after := ['\u00a0', '\r']
  isRemark := by decide
  blank_before := by simp [Text.isBlank]
  blank_after := by simp [Text.isBlank]
  oneLine := by decide
  apart := by decide
  last := by decide

/-- A comment line inside a section, in front of a text that compiles and of one that does not. -/
theorem compile_insert_remark_section :
    let opening := "{{#x}}\n"
    let data : Value := .map [(.text "x", .list [.int 1, .int 2])]
    opening.toList.getLast? = some '\n' ∧
    (∃ u, compile (opening ++ noteLine.text ++ "{{.}},\n{{/x}}") "page" = .ok u ∧ u.key = "page" ∧
      (render lookupFinder 1 ⟨"page", u.nodes⟩ data {} []).2.sink.text = "1,\n2,\n") ∧
    ∃ e, compile (opening ++ noteLine.text ++ "{{/y}}") "page" = .error e ∧
      e.problem.message = "Mismatched start/end tags: x != y" ∧ e.line = 3 := by
  intro opening data
  have hwhole : opening ++ "{{.}},\n{{/x}}" = "{{#x}}\n{{.}},\n{{/x}}" := rfl
  have hbroken : opening ++ "{{/y}}" = "{{#x}}\n{{/y}}" := rfl
  have hlast : opening.toList.getLast? = some '\n' := by decide
  have hshort : compile (opening ++ "{{.}},\n{{/x}}") "page" =
      .ok ⟨"page", [.block false "x" [.variable "." true, .text ",\n"]]⟩ := by
    rw [hwhole]
    with_unfolding_all rfl
  have hfails : compile (opening ++ "{{/y}}") "page" =
      .error ⟨.mismatchedClose "x" "y", 2, "page"⟩ := by
    rw [hbroken]
    with_unfolding_all rfl
  refine ⟨hlast, ?_, ?_⟩
  -- inside an open section the remark goes unseen,
  · have hline := compile_insert_remark noteLine (.inr hlast) "{{.}},\n{{/x}}" "page"
    rw [hshort] at hline
    cases hlong : compile (opening ++ noteLine.text ++ "{{.}},\n{{/x}}") "page" with
    | error e =>
      rw [hlong] at hline
      exact hline.elim
    | ok u =>
      rw [hlong] at hline
      obtain ⟨hkey, hrenders⟩ := hline
      obtain ⟨-, hsame⟩ := hrenders "page" _ lookupFinder 1 data {} [] rfl
      refine ⟨u, rfl, hkey (by decide), ?_⟩
      rw [← hsame.text]
      decide +kernel
  -- and an error behind it is told of one line further down
  · have hline := compile_insert_remark noteLine (.inr hlast) "{{/y}}" "page"
    rw [hfails] at hline
    cases hlong : compile (opening ++ noteLine.text ++ "{{/y}}") "page" with
    | ok u =>
      rw [hlong] at hline
      exact hline.elim
    | error e =>
      rw [hlong] at hline
      obtain ⟨hmessage, -, hnumber⟩ := hline
      have hwords : (SyntaxProblem.mismatchedClose "x" "y").message =
          "Mismatched start/end tags: x != y" := by decide
      have hlines : (Line.split opening.toList).length = 1 := by decide
      rw [hlines] at hnumber
      exact ⟨e, rfl, hmessage.trans hwords, hnumber⟩

end Template

end Mustache
