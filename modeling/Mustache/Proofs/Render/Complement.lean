import Mustache.Proofs.Render.Output
import Mustache.Proofs.Scope.Steady
import Mustache.Proofs.Template.Page

/-!
# Sections and their complements

Of a section and an inverted section of one name the data decide which one is rendered. The section
asks how often its body runs, the inverted one whether that is no times at all, and both read the
value for it. Reading leaves every value as it was except a stream: a stream gives its items once,
so what is decided second about a stream with items is decided as if it were empty.

The first part reads the two sections from their text, the second follows one section over a value,
and the third puts the two decisions behind each other.
-/

namespace Mustache

/-! ## Blocks of text -/

/-- A text without braces and line feeds. -/
structure Text.IsLiteral (s : String) : Prop where
  ne : s ≠ ""
  opening : '{' ∉ s.toList
  closing : '}' ∉ s.toList
  line : '\n' ∉ s.toList

/-- A name as it may stand in a tag, with or without blanks around it. -/
structure Text.NamesTag (s : String) : Prop where
  line : '\n' ∉ s.toList
  apart : Line.Apart '}' '}' s.toList
  last : s.toList.getLast? ≠ some '}'
  named : Text.trim s.toList ≠ []

namespace Line

/-- Literal text has no tag that could reach into the next one. -/
theorem Layout.mayPrecedeTag_of_isLiteral {s : String} (h : Text.IsLiteral s) :
    MayPrecedeTag s.toList := by
  refine ⟨apart_of_not_mem h.opening, apart_of_not_mem h.closing, ?_⟩
  intro hlast
  exact h.opening (List.mem_of_getLast? hlast)

namespace Tag

/-- The tag of a mark and a name. -/
def marked (mark : Char) (name : String) : Tag := .double (mark :: name.toList)

/-- A mark and a name make a tag. -/
theorem valid_marked {mark : Char} {name : String} (hopen : mark ≠ '{') (hclose : mark ≠ '}')
    (hmark : (marked mark name).name = name.toList) (h : Text.NamesTag name) :
    (marked mark name).Valid := by
  have hlast : (mark :: name.toList).getLast? ≠ some '}' := getLast?_cons_ne hclose h.last
  refine ⟨by simp, by simpa using hopen, (apart_cons_of_ne hclose).2 h.apart, hlast, .inr ?_⟩
  show Text.trim (marked mark name).name ≠ []
  rw [hmark]
  exact h.named

theorem not_mem_chars_marked {mark : Char} {name : String} (hmark : mark ≠ '\n')
    (h : Text.NamesTag name) : '\n' ∉ (marked mark name).chars := by
  have hline := h.line
  simp [marked, chars, hmark.symm, hline]

end Tag

end Line

namespace Template

/-- The character that opens a block. -/
def blockMark (inverted : Bool) : Char := if inverted then '^' else '#'

/-- The text of a block of a name around a text. -/
def blockText (inverted : Bool) (name body : String) : String :=
  SyntaxProblem.tag (String.singleton (blockMark inverted) ++ name) ++ body ++
    SyntaxProblem.tag ("/" ++ name)

open Line

section
variable {name : String}

theorem toList_blockText (inverted : Bool) (body : String) :
    (blockText inverted name body).toList =
      (Tag.marked (blockMark inverted) name).chars ++ body.toList ++
        (Tag.marked '/' name).chars := by
  simp [blockText, SyntaxProblem.tag, Tag.marked, Tag.chars]

/-- The tags of blocks, each with the text before it. -/
def blockTags (name : String) (blocks : List (Bool × String)) : List (List Char × Tag) :=
  blocks.flatMap fun block =>
    [([], Tag.marked (blockMark block.1) name), (block.2.toList, Tag.marked '/' name)]

/-- The tags of some blocks, with their bodies between, spell the text of the blocks. -/
theorem chars_blockTags (blocks : List (Bool × String)) :
    Layout.chars ⟨blockTags name blocks, []⟩ =
      blocks.flatMap fun block => (blockText block.1 name block.2).toList := by
  induction blocks with
  | nil => rfl
  | cons block more ih =>
    rw [List.flatMap_cons, ← ih, toList_blockText]
    simp [blockTags, Layout.chars]

/-- They are a valid layout of a line. -/
theorem valid_blockTags (hname : Text.NamesTag name) {blocks : List (Bool × String)}
    (hblocks : ∀ block ∈ blocks, Text.IsLiteral block.2) :
    Layout.Valid ⟨blockTags name blocks, []⟩ := by
  induction blocks with
  | nil => exact ⟨by simp [blockTags], by simp [blockTags], apart_nil '{' '{'⟩
  | cons block more ih =>
    obtain ⟨hbody, hmore⟩ := List.forall_mem_cons.1 hblocks
    have hopening : (Tag.marked (blockMark block.1) name).Valid := by
      cases block.1 with
      | false => exact Tag.valid_marked (by decide) (by decide) rfl hname
      | true => exact Tag.valid_marked (by decide) (by decide) rfl hname
    have hclosing : (Tag.marked '/' name).Valid :=
      Tag.valid_marked (by decide) (by decide) rfl hname
    exact .cons (by decide) hopening
      (.cons (Layout.mayPrecedeTag_of_isLiteral hbody) hclosing (ih hmore))

/-- What the tags of blocks say is one block each. -/
theorem spelled_blockTags {blocks : List (Bool × String)}
    (hblocks : ∀ block ∈ blocks, Text.IsLiteral block.2) :
    Node.Spelled (Layout.saidTags (blockTags name blocks))
      (blocks.map fun block => .block block.1 (Text.trimmed name) [.text block.2]) := by
  induction blocks with
  | nil => exact .nil
  | cons block more ih =>
    obtain ⟨hbody, hmore⟩ := List.forall_mem_cons.1 hblocks
    obtain ⟨inverted, body⟩ := block
    have hne : body.toList ≠ [] := by simpa using hbody.ne
    have htext : Node.Spelled [(.text, body)] [.text body] :=
      Node.Spelled.plain (t := ⟨.text, body, 1, 1⟩) (by simp) rfl (by simp) .nil
    have hsaid : Layout.saidTags (blockTags name ((inverted, body) :: more)) =
        ((Tag.marked (blockMark inverted) name).kind, Text.trimmed name) ::
          ([(.text, body)] ++ (.sectionEnd, Text.trimmed name) ::
            Layout.saidTags (blockTags name more)) := by
      cases inverted <;>
        simp [Layout.saidTags, blockTags, Layout.saidText_of_ne hne, Layout.saidText_nil,
          Tag.marked, blockMark, Tag.kind, Tag.name, Text.trimmed]
    rw [hsaid]
    cases inverted with
    | false =>
      exact Node.Spelled.nested (t := ⟨.sectionStart, Text.trimmed name, 1, 1⟩) rfl htext (ih hmore)
    | true =>
      exact Node.Spelled.nested (t := ⟨.invertedStart, Text.trimmed name, 1, 1⟩) rfl htext
        (ih hmore)

/-- The text of blocks is one line. -/
theorem bodies_blocks (hname : Text.NamesTag name) {blocks : List (Bool × String)}
    (hne : blocks ≠ []) (hblocks : ∀ block ∈ blocks, Text.IsLiteral block.2) :
    bodies (Layout.chars ⟨blockTags name blocks, []⟩) =
      [(Layout.chars ⟨blockTags name blocks, []⟩, .none)] := by
  have hline : '\n' ∉ Layout.chars ⟨blockTags name blocks, []⟩ := by
    rw [chars_blockTags, List.mem_flatMap]
    rintro ⟨block, hmem, hchar⟩
    have hopening : '\n' ∉ (Tag.marked (blockMark block.1) name).chars :=
      Tag.not_mem_chars_marked (by cases block.1 <;> decide) hname
    have hclosing : '\n' ∉ (Tag.marked '/' name).chars :=
      Tag.not_mem_chars_marked (by decide) hname
    rw [toList_blockText, List.mem_append, List.mem_append] at hchar
    rcases hchar with (hchar | hchar) | hchar
    · exact hopening hchar
    · exact (hblocks _ hmem).line hchar
    · exact hclosing hchar
  have hchars : Layout.chars ⟨blockTags name blocks, []⟩ ≠ [] := by
    obtain ⟨block, more, rfl⟩ := List.exists_cons_of_ne_nil hne
    simp [chars_blockTags, toList_blockText, Tag.chars_eq]
  have hbodies := bodies_append (s := []) hchars hline (by simp)
  rwa [List.append_nil] at hbodies

/-- The text of blocks around texts compiles to these blocks. -/
theorem compile_blocks (hname : Text.NamesTag name) {blocks : List (Bool × String)}
    (hne : blocks ≠ []) (hblocks : ∀ block ∈ blocks, Text.IsLiteral block.2) {text : String}
    (htext : text.toList =
      blocks.flatMap fun block => (blockText block.1 name block.2).toList)
    (key : String) :
    compile text key = .ok ⟨if key = "" then textKey text else key,
      blocks.map fun block => .block block.1 (Text.trimmed name) [.text block.2]⟩ := by
  have hvalid := valid_blockTags hname hblocks
  have hcount : (blockTags name blocks).length ≠ 1 := by
    obtain ⟨block, more, rfl⟩ := List.exists_cons_of_ne_nil hne
    simp [blockTags]
  have hscan := Layout.scan_chars hvalid 1 .none
  have hsaid := Layout.map_said_tokens (l := ⟨blockTags name blocks, []⟩) hcount
    ⟨1, Layout.chars ⟨blockTags name blocks, []⟩, .none⟩
  have hnone : Layout.saidText ([] ++ LineEnding.chars .none) = [] := rfl
  rw [Layout.said, hnone, List.append_nil] at hsaid
  have hparse : parse text = .ok
      (blocks.map fun block => .block block.1 (Text.trimmed name) [.text block.2]) := by
    rw [parse, htext, ← chars_blockTags, Token.scan, Line.split, bodies_blocks hname hne hblocks]
    simp only [numbered, scanAll, hscan, Except.map, List.append_nil]
    exact Node.ofTokens_of_spelled (hsaid ▸ spelled_blockTags hblocks) rfl _
  rw [compile, hparse]

end

end Template

/-! ## One section over a value -/

namespace Value

/-- How often a section's body runs for a value whose items can be had: not for one that is absent
or false, once for each item of one that holds items, and once for any other. -/
def sectionCount (v : Value) : Nat :=
  if v.isAbsent then 0
  else
    match v.items? with
    | .ok none => 1
    | .ok (some items) => items.length
    | .error _ => 0

/-- Whether a value has items that it gives only once. -/
def givesOnce : Value → Bool
  | .stream _ items => !items.isEmpty
  | _ => false

/-- How often a section's body runs for a value by now, or with what failure asking for its items
ends. -/
def countAfter (m : Memory) (v : Value) : Except Failure Nat :=
  if v.isAbsent then .ok 0
  else (Memory.items? v m).1.map fun
    | none => 1
    | some items => items.length

/-- The memory when it has been decided how often a section's body runs. -/
def decided (m : Memory) (v : Value) : Memory := if v.isAbsent then m else (Memory.items? v m).2

variable {v : Value} {m m' : Memory}

/-- A stream that is used up by reading has items. -/
theorem sectionCount_ne_zero_of_givesOnce (h : v.givesOnce = true) : v.sectionCount ≠ 0 := by
  cases v with
  | stream id items =>
    have hne : items ≠ [] := by simpa [givesOnce] using h
    simpa [sectionCount, isAbsent, items?] using hne
  | _ => simp [givesOnce] at h

/-- Deciding about a value reads its stream and changes no buffer. -/
theorem buffers_decided (m : Memory) (v : Value) : (v.decided m).buffers = m.buffers := by
  unfold decided
  split
  · rfl
  · exact buffers_items? v m

/-- Before any stream is read, the count is that of all items. -/
theorem countAfter_of_spent (hm : m.spent = []) :
    v.countAfter m = v.items?.map fun _ => v.sectionCount := by
  have hitems : (Memory.items? v m).1 = v.items? := by
    cases v with
    | stream id items => rw [Memory.items?, hm, if_neg List.not_mem_nil]; rfl
    | _ => rfl
  unfold countAfter sectionCount
  rw [hitems]
  split
  · next habsent =>
    cases v with
    | null => rfl
    | bool b => rfl
    | _ => cases habsent
  · rcases v.items? with _ | _ | _ <;> rfl

/-- What is decided next about a value is decided as before, except about a stream, which is then
empty. -/
theorem countAfter_again (hm : m.spent = []) (hm' : m'.spent = (v.decided m).spent) :
    v.countAfter m' = if v.givesOnce then .ok 0 else v.countAfter m := by
  cases v with
  | stream id items =>
    have hread : id ∈ m'.spent := by
      rw [hm', decided, if_neg (by simp [isAbsent]), Memory.items?, hm, if_neg List.not_mem_nil]
      exact List.mem_cons_self
    have hagain : countAfter m' (.stream id items) = .ok 0 := by
      rw [countAfter, if_neg (by simp [isAbsent]), Memory.items?, if_pos hread]
      rfl
    have hfirst : countAfter m (.stream id items) = .ok items.length := by
      rw [countAfter, if_neg (by simp [isAbsent]), Memory.items?, hm, if_neg List.not_mem_nil]
      rfl
    rw [hagain, hfirst]
    cases items <;> rfl
  | null => rfl
  | bool b => cases b <;> rfl
  | _ => rfl

end Value

/-- The progress with chunks written into a sink that takes everything. -/
def Progress.wrote {L : Type} (p : Progress L) (chunks : List String) : Progress L :=
  { p with sink := { p.sink with written := chunks.reverse ++ p.sink.written } }

namespace Walk

variable {L : Type} {finder : Finder L} {enter : Scope → Template → Walk L Unit} {scope : Scope}
  {p : Progress L}

theorem wrote_wrote (p : Progress L) (chunks more : List String) :
    (p.wrote chunks).wrote more = p.wrote (chunks ++ more) := by
  simp [Progress.wrote]

/-- A text is written as it is. -/
theorem nodes_text (hcapacity : p.sink.capacity = none) (scope : Scope) (body : String) :
    nodes finder enter scope [.text body] p = (.ok (), p.wrote [body]) := by
  rw [nodes, bind_apply, node, write_apply hcapacity]
  rfl

/-- A body that is literal text is written once for every item. -/
theorem forM_nodes_text (hcapacity : p.sink.capacity = none) (items : List Value) (body : String) :
    (items.forM fun item => nodes finder enter (scope.push item) [.text body]) p =
      (.ok (), p.wrote (List.replicate items.length body)) := by
  induction items generalizing p with
  | nil => rfl
  | cons item items ih =>
    show (nodes finder enter (scope.push item) [.text body] >>= fun _ => items.forM _) p = _
    rw [bind_apply, nodes_text hcapacity]
    have hrest := ih (p := p.wrote [body]) hcapacity
    rw [wrote_wrote] at hrest
    exact hrest

section
variable {name body : String} {v : Value}

theorem resolve_apply {m : Memory} (hlook : scope.look name p.memory = (.ok v, m)) :
    resolve scope name p = (.ok v, { p with memory := m }) := by
  rw [resolve, consult_apply, hlook]
  rfl

theorem items?_apply (v : Value) (p : Progress L) :
    items? v p =
      ((Memory.items? v p.memory).1.mapError .failure,
        { p with memory := (Memory.items? v p.memory).2 }) := rfl

/-- An inverted section decides whether the section's body would run no times at all. -/
theorem isBlank_apply (v : Value) (p : Progress L) :
    isBlank v p =
      (((v.countAfter p.memory).map (· == 0)).mapError .failure,
        { p with memory := v.decided p.memory }) := by
  by_cases habsent : v.isAbsent = true
  · simp only [isBlank, habsent, ↓reduceIte, Value.countAfter, Value.decided]
    rfl
  · simp only [isBlank, habsent, Bool.false_eq_true, ↓reduceIte, Value.countAfter, Value.decided]
    rw [bind_apply, items?_apply]
    rcases (Memory.items? v p.memory).1 with _ | _ | _ | _ <;> rfl

section
variable {m : Memory} (hlook : scope.look name p.memory = (.ok v, m))
include hlook

/-- A section writes its text as often as its body runs. -/
theorem node_section {n : Nat} (hcount : v.countAfter m = .ok n)
    (hcapacity : p.sink.capacity = none) :
    node finder enter scope (.block false name [.text body]) p =
      (.ok (), { p with memory := v.decided m }.wrote (List.replicate n body)) := by
  rw [node, bind_apply, resolve_apply hlook]
  unfold Value.countAfter at hcount
  unfold Value.decided
  by_cases habsent : v.isAbsent = true
  · rw [if_pos habsent] at hcount
    obtain rfl := Except.ok.inj hcount
    simp only [habsent, ↓reduceIte]
    rfl
  · rw [if_neg habsent] at hcount
    obtain ⟨found, hfound, rfl⟩ := map_eq_ok_iff.1 hcount
    simp only [habsent, Bool.false_eq_true, ↓reduceIte]
    rw [bind_apply, items?_apply]
    simp only [hfound]
    cases found with
    | none => exact nodes_text (p := { p with memory := (Memory.items? v m).2 }) hcapacity _ body
    | some items =>
      exact forM_nodes_text (p := { p with memory := (Memory.items? v m).2 }) hcapacity items body

/-- An inverted section writes its text if the section would not write its own. -/
theorem node_inverted {n : Nat} (hcount : v.countAfter m = .ok n)
    (hcapacity : p.sink.capacity = none) :
    node finder enter scope (.block true name [.text body]) p =
      (.ok (), { p with memory := v.decided m }.wrote (if n = 0 then [body] else [])) := by
  rw [node, bind_apply, resolve_apply hlook]
  simp only [bind_apply, isBlank_apply, hcount]
  by_cases hzero : n = 0
  · subst hzero
    exact nodes_text (p := { p with memory := v.decided m }) hcapacity scope body
  · have hbeq : (n == 0) = false := by simpa using hzero
    simp only [Except.map, Except.mapError, hbeq, if_neg hzero]
    rfl

/-- If the items cannot be had, nothing is written. -/
theorem node_of_countAfter_error {failure : Failure} (hcount : v.countAfter m = .error failure)
    (inverted : Bool) (nodes : List Node) :
    node finder enter scope (.block inverted name nodes) p =
      (.error (.failure failure), { p with memory := v.decided m }) := by
  cases inverted with
  | true =>
    rw [node, bind_apply, resolve_apply hlook]
    simp only [bind_apply, isBlank_apply, hcount]
    rfl
  | false =>
    rw [node, bind_apply, resolve_apply hlook]
    unfold Value.countAfter at hcount
    unfold Value.decided
    by_cases habsent : v.isAbsent = true
    · rw [if_pos habsent] at hcount
      cases hcount
    · rw [if_neg habsent] at hcount
      simp only [habsent, Bool.false_eq_true, ↓reduceIte]
      rw [bind_apply, items?_apply]
      simp only [map_eq_error_iff.1 hcount]
      rfl

end

end

end Walk

/-! ## Two sections behind each other -/

/-- What a section around `a` and an inverted section around `b` write together if they see the
same value. -/
def Value.complement (v : Value) (a b : String) : List String :=
  if v.sectionCount = 0 then [b] else List.replicate v.sectionCount a

namespace Value

variable (v : Value) (a b : String)

/-- Decided before the section, the inverted section leaves a stream nothing for the section. -/
theorem chunks_inverted_section :
    ((if v.sectionCount = 0 then [b] else []) ++
        List.replicate (if v.givesOnce then 0 else v.sectionCount) a) =
      if v.givesOnce then [] else v.complement a b := by
  unfold complement
  cases honce : v.givesOnce with
  | false => by_cases hcount : v.sectionCount = 0 <;> simp [hcount]
  | true => simp [sectionCount_ne_zero_of_givesOnce honce]

/-- Decided before the inverted section, the section leaves a stream empty for it. -/
theorem chunks_section_inverted :
    (List.replicate v.sectionCount a ++
        if (if v.givesOnce then 0 else v.sectionCount) = 0 then [b] else []) =
      if v.givesOnce then List.replicate v.sectionCount a ++ [b] else v.complement a b := by
  unfold complement
  cases honce : v.givesOnce with
  | false => by_cases hcount : v.sectionCount = 0 <;> simp [hcount]
  | true => simp

end Value

namespace Walk

variable {L : Type} {finder : Finder L} {enter : Scope → Template → Walk L Unit} {scope : Scope}
  {p : Progress L} {name a b : String} {v : Value}

theorem nodes_pair {first second : Node} {q r : Progress L}
    (hfirst : node finder enter scope first p = (.ok (), q))
    (hsecond : node finder enter scope second q = (.ok (), r)) :
    nodes finder enter scope [first, second] p = (.ok (), r) := by
  rw [nodes, bind_apply, hfirst]
  simp only [nodes, bind_apply, hsecond]
  rfl

theorem nodes_cons_error {first : Node} {rest : List Node} {fault : Fault} {q : Progress L}
    (h : node finder enter scope first p = (.error fault, q)) :
    nodes finder enter scope (first :: rest) p = (.error fault, q) := by
  rw [nodes, bind_apply, h]

section
variable {m m' : Memory} {n n' : Nat} {w : Value}
  (hlook : scope.look name p.memory = (.ok v, m)) (hcount : v.countAfter m = .ok n)
  (hagain : scope.look name (v.decided m) = (.ok w, m')) (hcount' : w.countAfter m' = .ok n')
  (hcapacity : p.sink.capacity = none)
include hlook hcount hagain hcount' hcapacity

/-- An inverted section writes what it decides, and then the section what it decides. -/
theorem nodes_inverted_section :
    ∃ q, nodes finder enter scope [.block true name [.text b], .block false name [.text a]] p =
        (.ok (), q) ∧
      q.sink = (p.wrote ((if n = 0 then [b] else []) ++ List.replicate n' a)).sink := by
  have hfirst : node finder enter scope (.block true name [.text b]) p = _ :=
    node_inverted hlook hcount hcapacity
  refine ⟨_, nodes_pair hfirst (node_section hagain hcount' hcapacity), ?_⟩
  rw [← wrote_wrote]
  rfl

/-- A section writes what it decides, and then the inverted section what it decides. -/
theorem nodes_section_inverted :
    ∃ q, nodes finder enter scope [.block false name [.text a], .block true name [.text b]] p =
        (.ok (), q) ∧
      q.sink = (p.wrote (List.replicate n a ++ if n' = 0 then [b] else [])).sink := by
  have hfirst : node finder enter scope (.block false name [.text a]) p = _ :=
    node_section hlook hcount hcapacity
  refine ⟨_, nodes_pair hfirst (node_inverted hagain hcount' hcapacity), ?_⟩
  rw [← wrote_wrote]
  rfl

end

end Walk

/-! ## Looking a name up again -/

namespace Scope

variable {data v w : Value} {name : String} {m m' : Memory}

/-- What a look-up that can change a buffer gives: a byte for `pop` and nothing otherwise. -/
theorem look_buffer {id : BufferId} {bs : List UInt8} (hname : name ∈ Value.Buffer.changing)
    (hw : ((ofRoot (.buffer id bs)).look name m).1 = .ok w) :
    if name = "pop" then ∃ n, w = .int n else w = .null := by
  obtain ⟨content, hcontent⟩ : ∃ content, (Value.buffer id bs).asOf m = .buffer id content := by
    unfold Value.asOf
    split
    · exact ⟨bs, rfl⟩
    · exact ⟨_, rfl⟩
  have hframes : ((ofRoot (.buffer id bs)).asOf m).frames = [.buffer id content] :=
    congrArg (fun v => [v]) hcontent
  have hself : name ≠ itself := by
    rintro rfl
    exact absurd hname (by decide)
  rw [look, lookFrom, resolveFrom, if_neg hself, hframes] at hw
  simp only [Value.Buffer.changing, List.mem_cons, List.not_mem_nil, or_false] at hname
  -- only popping gives a value of the buffer; the other two give none
  rcases hname with rfl | rfl | rfl
  · rw [if_pos rfl]
    have hmember (origin : Nat) : (Value.buffer id content).member? origin "pop" =
      Value.ofMember (some (Value.Buffer.last content)) := rfl
    rw [firstMember, hmember, Value.Buffer.last] at hw
    cases hlast : content.getLast? with
    | none => rw [hlast] at hw; cases hw
    | some b =>
      rw [hlast] at hw
      exact ⟨_, (Except.ok.inj hw).symm⟩
  · exact (Except.ok.inj hw).symm
  · exact (Except.ok.inj hw).symm

/-- What is looked up a second time in the root is found as before, unless it is the last byte of a
buffer, which is then another byte. -/
theorem look_again (hv : (ofRoot data).look name {} = (.ok v, m)) (hm' : m'.buffers = m.buffers)
    (hw : ((ofRoot data).look name m').1 = .ok w) : w = v ∨ ∃ n k, v = .int n ∧ w = .int k := by
  by_cases hm : m.buffers = []
  · have hfirst := fst_look_of_buffers (m := {}) rfl (ofRoot data) name
    rw [fst_look_of_buffers (hm'.trans hm), ← hfirst, hv] at hw
    exact .inl (Except.ok.inj hw).symm
  · -- only the root can have been changed
    have hchanged : ((ofRoot data).look name {}).2 ≠ {} := by
      rw [hv]
      rintro rfl
      exact hm rfl
    obtain ⟨id, bs, hmem, hafter⟩ := exists_buffer_of_lookFrom hchanged
    obtain rfl : .buffer id bs = data := List.mem_singleton.1 hmem
    have hname : name ∈ Value.Buffer.changing := by
      by_contra hnot
      exact hafter (Value.Buffer.after_of_not_mem hnot bs)
    have hfirst := look_buffer hname (w := v) (m := {}) (by rw [hv])
    have hsecond := look_buffer hname hw
    by_cases hpop : name = "pop"
    · rw [if_pos hpop] at hfirst hsecond
      obtain ⟨n, rfl⟩ := hfirst
      obtain ⟨k, rfl⟩ := hsecond
      exact .inr ⟨n, k, rfl, rfl⟩
    · rw [if_neg hpop] at hfirst hsecond
      exact .inl (hsecond.trans hfirst.symm)

end Scope

/-- A rendering ends and writes as the walk over the nodes of its template does. -/
theorem render_of_nodes {L : Type} {finder : Finder L} {depth : Nat} {t : Template} {data : Value}
    {sink : Sink} {library : L} {result : Except Fault Unit} {chunks : List String}
    (h : ∃ q, Walk.nodes finder (Walk.template finder depth [t.key]) (.ofRoot data) t.nodes
        ⟨sink, {}, [], library⟩ = (result, q) ∧
      q.sink = (Progress.wrote ⟨sink, {}, [], library⟩ chunks).sink)
    (hflush : sink.flushFailure = none) :
    (render finder (depth + 1) t data sink library).1 = result ∧
      (render finder (depth + 1) t data sink library).2.sink.chunks = sink.chunks ++ chunks := by
  obtain ⟨q, hnodes, hsink⟩ := h
  -- nothing is active at the start, so the template is entered
  have hwalk : Walk.template finder (depth + 1) [] (.ofRoot data) t ⟨sink, {}, [], library⟩ =
      (result, q) := by
    rw [Walk.template, if_neg List.not_mem_nil]
    exact hnodes
  have hflush' : q.sink.flushFailure = none := by
    rw [hsink]
    exact hflush
  have hchunks : q.sink.chunks = sink.chunks ++ chunks := by
    rw [hsink]
    simp [Progress.wrote, Sink.chunks]
  have hend := Progress.finish_of_flushFailure_none hflush' result
  unfold render
  rw [hwalk, ← hchunks]
  exact hend

/-- The text of two blocks compiles to these blocks. -/
theorem Template.exists_compile_pair {name a b : String} (hname : Text.NamesTag name)
    (ha : Text.IsLiteral a) (hb : Text.IsLiteral b) (inverted inverted' : Bool) (key : String) :
    ∃ t, compile (blockText inverted name a ++ blockText inverted' name b) key = .ok t ∧
      t.nodes = [.block inverted (Text.trimmed name) [.text a],
        .block inverted' (Text.trimmed name) [.text b]] := by
  have hblocks : ∀ block ∈ [(inverted, a), (inverted', b)], Text.IsLiteral block.2 := by
    simp [ha, hb]
  have htext : (blockText inverted name a ++ blockText inverted' name b).toList =
      [(inverted, a), (inverted', b)].flatMap fun block =>
        (blockText block.1 name block.2).toList := by
    simp
  exact ⟨_, compile_blocks hname (List.cons_ne_nil _ _) hblocks htext key, rfl⟩

/-- A section and an inverted section of one name, written behind each other in either order, write
the text of exactly one of them, the section once for each item of a value that holds items. Only a
stream with items is an exception: behind the inverted section the section finds it empty, so that
neither text is written, and behind the section the inverted one does, so that both are. Neither of
the two look-ups may fail; if the items cannot be had, that failure is passed on by both orders. -/
theorem render_complement {name a b : String} (hname : Text.NamesTag name)
    (ha : Text.IsLiteral a) (hb : Text.IsLiteral b) {data v w : Value} {m : Memory}
    (hv : (Scope.ofRoot data).look (Text.trimmed name) {} = (.ok v, m))
    (hw : ((Scope.ofRoot data).look (Text.trimmed name) (v.decided m)).1 = .ok w) {sink : Sink}
    (hcapacity : sink.capacity = none) (hflush : sink.flushFailure = none) (key : String)
    {L : Type} (finder : Finder L) (depth : Nat) (library : L) :
    ∃ t u : Template,
      Template.compile
        (Template.blockText true name b ++ Template.blockText false name a) key = .ok t ∧
      Template.compile
        (Template.blockText false name a ++ Template.blockText true name b) key = .ok u ∧
      match v.items? with
      | .ok _ =>
        ((render finder (depth + 1) t data sink library).1 = .ok () ∧
          (render finder (depth + 1) t data sink library).2.sink.chunks =
            sink.chunks ++ (if v.givesOnce then [] else v.complement a b)) ∧
        (render finder (depth + 1) u data sink library).1 = .ok () ∧
          (render finder (depth + 1) u data sink library).2.sink.chunks =
            sink.chunks ++ (if v.givesOnce then List.replicate v.sectionCount a ++ [b]
              else v.complement a b)
      | .error failure =>
        ((render finder (depth + 1) t data sink library).1 = .error (.failure failure) ∧
          (render finder (depth + 1) t data sink library).2.sink.chunks = sink.chunks) ∧
        (render finder (depth + 1) u data sink library).1 = .error (.failure failure) ∧
          (render finder (depth + 1) u data sink library).2.sink.chunks = sink.chunks := by
  obtain ⟨t, ht, htnodes⟩ := Template.exists_compile_pair hname hb ha true false key
  obtain ⟨u, hu, hunodes⟩ := Template.exists_compile_pair hname ha hb false true key
  refine ⟨t, u, ht, hu, ?_⟩
  have hspent : m.spent = [] := by
    have hspent := Scope.spent_look (Scope.ofRoot data) (Text.trimmed name) {}
    rwa [hv] at hspent
  have hcount := Value.countAfter_of_spent (v := v) hspent
  cases hitems : v.items? with
  -- asking for the items fails, and it does so in whichever section comes first
  | error failure =>
    rw [hitems] at hcount
    have hfails {x : Template} {inverted : Bool} {body rest : List Node}
        (hx : x.nodes = .block inverted (Text.trimmed name) body :: rest) :
        (render finder (depth + 1) x data sink library).1 = .error (.failure failure) ∧
          (render finder (depth + 1) x data sink library).2.sink.chunks = sink.chunks ++ [] := by
      refine render_of_nodes ?_ hflush
      rw [hx]
      exact ⟨{ sink, memory := v.decided m, notices := [], library },
        Walk.nodes_cons_error (Walk.node_of_countAfter_error hv hcount inverted body), rfl⟩
    simp only [List.append_nil] at hfails
    exact ⟨hfails htnodes, hfails hunodes⟩
  | ok items =>
    rw [hitems] at hcount
    -- the second section decides again, and only a stream is decided otherwise then
    have hagain : w.countAfter ((Scope.ofRoot data).look (Text.trimmed name) (v.decided m)).2 =
        .ok (if v.givesOnce then 0 else v.sectionCount) := by
      have hspent' := Scope.spent_look (Scope.ofRoot data) (Text.trimmed name) (v.decided m)
      -- the second look-up finds the same value, or the same number popped from a buffer
      rcases Scope.look_again hv (v.buffers_decided m) hw with rfl | ⟨n, k, rfl, rfl⟩
      · rw [Value.countAfter_again hspent hspent', hcount]
        split <;> rfl
      · rfl
    have hlook : (Scope.ofRoot data).look (Text.trimmed name) (v.decided m) =
        (.ok w, ((Scope.ofRoot data).look (Text.trimmed name) (v.decided m)).2) :=
      Prod.ext hw rfl
    refine ⟨render_of_nodes ?_ hflush, render_of_nodes ?_ hflush⟩
    · rw [htnodes, ← v.chunks_inverted_section]
      exact Walk.nodes_inverted_section hv hcount hlook hagain hcapacity
    · rw [hunodes, ← v.chunks_section_inverted]
      exact Walk.nodes_section_inverted hv hcount hlook hagain hcapacity

/-- Data with two rows under a name that has blanks around it in the tags. -/
theorem render_complement_rows :
    let rows : Value := .list [.int 0, .null]
    let data : Value := .map [(.text "x", rows)]
    (Text.NamesTag " x\t" ∧ Text.IsLiteral "A" ∧ Text.IsLiteral " ") ∧
    (Scope.ofRoot data).look (Text.trimmed " x\t") {} = (.ok rows, {}) ∧
    ∃ t u : Template,
      Template.compile
        (Template.blockText true " x\t" " " ++ Template.blockText false " x\t" "A") "t" = .ok t ∧
      Template.compile
        (Template.blockText false " x\t" "A" ++ Template.blockText true " x\t" " ") "t" = .ok u ∧
      (renderWith [] t data {}).2.sink.chunks = ["A", "A"] ∧
      (renderWith [] u data {}).2.sink.chunks = ["A", "A"] := by
  intro rows data
  have hname : Text.NamesTag " x\t" := ⟨by decide, by decide, by decide, by decide⟩
  have ha : Text.IsLiteral "A" := ⟨by decide, by decide, by decide, by decide⟩
  have hb : Text.IsLiteral " " := ⟨by decide, by decide, by decide, by decide⟩
  have hv : (Scope.ofRoot data).look (Text.trimmed " x\t") {} = (.ok rows, {}) := rfl
  obtain ⟨t, u, ht, hu, ⟨-, htchunks⟩, -, huchunks⟩ :=
    render_complement hname ha hb hv (w := rows) rfl (show Sink.capacity {} = none from rfl) rfl "t"
      lookupFinder 0 []
  exact ⟨⟨hname, ha, hb⟩, hv, t, u, ht, hu, htchunks, huchunks⟩

/-- Of a stream with one item the two sections are no complements in either order. -/
theorem render_stream_not_complement :
    let data : Value := .map [(.text "x", .stream 0 [.int 1])]
    (Scope.ofRoot data).look "x" {} = (.ok (.stream 0 [.int 1]), {}) ∧
    ∃ t u : Template,
      Template.compile
        (Template.blockText true "x" "B" ++ Template.blockText false "x" "A") "t" = .ok t ∧
      Template.compile
        (Template.blockText false "x" "A" ++ Template.blockText true "x" "B") "t" = .ok u ∧
      (renderWith [] t data {}).2.sink.chunks = [] ∧
      (renderWith [] u data {}).2.sink.chunks = ["A", "B"] :=
  ⟨rfl, ⟨"t", [.block true "x" [.text "B"], .block false "x" [.text "A"]]⟩,
    ⟨"t", [.block false "x" [.text "A"], .block true "x" [.text "B"]]⟩,
    by with_unfolding_all rfl, by with_unfolding_all rfl, by decide +kernel, by decide +kernel⟩

end Mustache
