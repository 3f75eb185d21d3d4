import Mustache.Proofs.Render.Repetition
import Mustache.Proofs.Render.Twins

/-!
# Frames without members

A section brings its value or its items into the scope as frames. Frames that are scalars or
collections answer for no name, so what stands in the section is rendered as in the scope around it,
once for each frame, unless it asks for the frame itself.

A buffer of bytes is counted as one value, as texts and bytes are, but it does answer for names:
those of its methods. Where a name in the section is one of them, the frame is not transparent.
-/

namespace Mustache

namespace Value

mutual

/-- Whether a value is a scalar, or a collection of values that are scalars or such collections. -/
def isPlain : Value → Bool
  | .null | .bool _ | .int _ | .float _ | .text _ | .bytes _ | .buffer .. | .range .. => true
  | .list items | .tuple items | .set items | .frozenSet items => allPlain items
  | _ => false

/-- Whether all of some items are plain. -/
def allPlain : List Value → Bool
  | [] => true
  | item :: rest => isPlain item && allPlain rest

end

/-- The frames that a section brings into the scope, one after the other, if the items can be
had. -/
def sectionFrames (v : Value) : List Value :=
  if v.isAbsent then []
  else
    match v.items? with
    | .ok none => [v]
    | .ok (some items) => items
    | .error _ => []

variable {v : Value} {name : String}

/-- A section pushes one frame for each time that its body runs. -/
theorem length_sectionFrames (v : Value) : v.sectionFrames.length = v.sectionCount := by
  unfold sectionFrames sectionCount
  split
  · rfl
  · rcases v.items? with _ | _ | _ <;> rfl

theorem allPlain_eq (items : List Value) : allPlain items = items.all isPlain := by
  induction items with
  | nil => rfl
  | cons item rest ih => rw [allPlain, List.all_cons, ih]

/-- The items of a plain value are plain. -/
theorem isPlain_of_items? (h : v.isPlain = true) {items : List Value}
    (hitems : v.items? = .ok (some items)) : ∀ item ∈ items, item.isPlain = true := by
  have hall : items.all isPlain = true := by
    cases v with
    | list xs | tuple xs | set xs | frozenSet xs =>
      obtain rfl : xs = items := Option.some.inj (Except.ok.inj hitems)
      exact (allPlain_eq xs).symm.trans h
    | range start stop step =>
      obtain rfl : rangeItems start stop step = items := Option.some.inj (Except.ok.inj hitems)
      simp [rangeItems, isPlain]
    | stream | object => cases h
    | _ => cases hitems
  exact List.all_eq_true.1 hall

theorem exists_items?_of_isPlain (h : v.isPlain = true) : ∃ found, v.items? = .ok found := by
  cases v with
  | object => cases h
  | _ => exact ⟨_, rfl⟩

/-- The frames of a plain value are plain. -/
theorem isPlain_of_sectionFrames (h : v.isPlain = true) :
    ∀ frame ∈ v.sectionFrames, frame.isPlain = true := by
  unfold sectionFrames
  split
  · simp
  · split
    · exact List.forall_mem_singleton.2 h
    · next hitems => exact isPlain_of_items? h hitems
    · simp

mutual

/-- There are no streams in plain values. -/
theorem isLasting_of_isPlain : (v : Value) → v.isPlain = true → v.isLasting = true
  | .list items, h | .tuple items, h | .set items, h | .frozenSet items, h =>
    allLasting_of_allPlain items h
  | .null, _ | .bool _, _ | .int _, _ | .float _, _ | .text _, _ | .bytes _, _ | .buffer .., _
  | .range .., _ => rfl
  | .stream .., h | .map _, h | .view .., h | .date _, h | .moment _, h | .object .., h => by
    cases h

theorem allLasting_of_allPlain : (items : List Value) → allPlain items = true →
    allInside (fun w => !w.isStream) items = true
  | [], _ => rfl
  | item :: rest, h => by
    obtain ⟨hitem, hrest⟩ := Bool.and_eq_true_iff.1 h
    exact Bool.and_eq_true_iff.2
      ⟨isLasting_of_isPlain item hitem, allLasting_of_allPlain rest hrest⟩

end

/-! ## Frames that answer for no name -/

/-- A value answers for none of certain names, whatever is changed in it. -/
structure Silent (Named : String → Prop) (v : Value) : Prop where
  member : ∀ {name}, Named name → ∀ origin m, (v.asOf m).member? origin name = .ok none
  /-- Only a buffer can be an origin, and then no other buffer answers either. -/
  origin : v.origin = 0 ∨ ∀ {name}, Named name → ∀ origin id bs,
    member? origin (.buffer id bs) name = .ok none

variable {Named : String → Prop}

/-- The methods of a buffer give something or fail. -/
theorem Buffer.ne_failingProperty (origin : Nat) (bs : List UInt8) :
    ∀ entry ∈ results origin bs, ∀ failure, entry.2 ≠ .failingProperty failure := by
  unfold results decoded last
  cases Text.decodeUtf8 0 0 bs <;> cases bs.getLast? <;> simp

/-- Which names a buffer answers for has nothing to do with what it holds. -/
theorem Buffer.member?_eq_none {origin : Nat} {bs : List UInt8}
    (h : ofMember (Buffer.member? origin bs name) = .ok none) (origin' : Nat) (bs' : List UInt8) :
    Buffer.member? origin' bs' name = none := by
  have hnone : Buffer.member? origin bs name = none := by
    cases hmember : Buffer.member? origin bs name with
    | none => rfl
    | some member =>
      rw [hmember] at h
      unfold Buffer.member? at hmember
      split at hmember
      · cases hmember
        cases h
      · cases member with
        | value v => cases h
        | failingMethod failure => cases h
        | failingProperty failure =>
          exact absurd rfl (ne_failingProperty origin bs _ (mem_of_lookup hmember) failure)
  unfold Buffer.member? at hnone ⊢
  split at hnone
  · cases hnone
  · rw [if_neg (by assumption)]
    rw [List.lookup_eq_none_iff] at hnone ⊢
    -- the table has the same names whatever the bytes are
    have hnames : (results origin' bs').map Prod.fst = (results origin bs).map Prod.fst := rfl
    intro entry hentry
    obtain ⟨other, hother, hname⟩ := List.mem_map.1 (hnames ▸ List.mem_map_of_mem hentry)
    exact hname ▸ hnone other hother

/-- Whether a buffer has a member with a name does not depend on what it holds. -/
theorem member?_buffer_eq_none {origin : Nat} {id : BufferId} {bs : List UInt8}
    (h : member? origin (.buffer id bs) name = .ok none) (origin' : Nat) (id' : BufferId)
    (bs' : List UInt8) : member? origin' (.buffer id' bs') name = .ok none := by
  rw [member?] at h ⊢
  split
  · rfl
  · rw [if_neg (by assumption)] at h
    rw [Buffer.member?_eq_none h origin' bs']
    rfl

/-- A plain value that is no buffer has no members. -/
theorem silent_of_isPlain (h : v.isPlain = true) (hbuffer : v.isBuffer = false) :
    v.Silent Named := by
  refine ⟨fun {name} _ origin m => ?_, ?_⟩
  · unfold Value.asOf
    cases v with
    | buffer => cases hbuffer
    | map | view | date | moment | object | stream => cases h
    | _ => split <;> rfl
  · cases v with
    | buffer => cases hbuffer
    | _ => exact .inl rfl

/-- A buffer is silent if its methods are not asked for. -/
theorem silent_buffer {id : BufferId} {bs : List UInt8}
    (h : ∀ name, Named name → member? 0 (.buffer id bs) name = .ok none) :
    (Value.buffer id bs).Silent Named := by
  refine ⟨fun {name} hname origin m => ?_, .inr fun hname => member?_buffer_eq_none (h _ hname)⟩
  unfold Value.asOf
  split
  · exact member?_buffer_eq_none (h _ hname) _ _ _
  · exact member?_buffer_eq_none (h _ hname) _ _ _

/-- The frames of a plain value are silent, if the buffers among them are. -/
theorem silent_of_sectionFrames (h : v.isPlain = true)
    (hbuffers : ∀ id bs, .buffer id bs ∈ v.sectionFrames →
      ∀ name, Named name → member? 0 (.buffer id bs) name = .ok none) :
    ∀ frame ∈ v.sectionFrames, frame.Silent Named := by
  intro frame hframe
  have hplain := isPlain_of_sectionFrames h frame hframe
  cases hbuffer : frame.isBuffer with
  | false => exact silent_of_isPlain hplain hbuffer
  | true =>
    cases frame with
    | buffer id bs => exact silent_buffer (hbuffers id bs hframe)
    | _ => cases hbuffer

end Value

/-! ## Frames that are brought in and do not answer -/

namespace Scope

variable {Named : String → Prop} {frame : Value} {scope : Scope} {name : String}

/-- The first scope is the second with a frame somewhere above the frames of a third one. -/
def WithFrame (frame : Value) (scope s s' : Scope) : Prop :=
  ∃ above, s = ⟨scope.root, above ++ frame :: scope.inner⟩ ∧ s' = ⟨scope.root, above ++ scope.inner⟩

/-- Only what buffers give depends on an origin. -/
theorem firstMember_origin
    (h : ∀ origin id bs, Value.member? origin (.buffer id bs) name = .ok none)
    (origin origin' : Nat) (frames : List Value) :
    firstMember origin name frames = firstMember origin' name frames := by
  induction frames with
  | nil => rfl
  | cons v rest ih =>
    have hmember : v.member? origin name = v.member? origin' name := by
      cases v with
      | buffer id bs => rw [h, h]
      | _ => rfl
    rw [firstMember, firstMember, hmember, ih]

/-- A frame without an answer for a name can be left out. -/
theorem firstMember_append_cons {v : Value} {origin : Nat} (h : v.member? origin name = .ok none)
    (above below : List Value) :
    firstMember origin name (above ++ v :: below) = firstMember origin name (above ++ below) := by
  induction above with
  | nil => rw [List.nil_append, firstMember, h]; rfl
  | cons w above ih => rw [List.cons_append, List.cons_append, firstMember, firstMember, ih]

theorem answering?_append_cons {v : Value} (h : v.member? 0 name = .ok none)
    (above below : List Value) :
    answering? name (above ++ v :: below) = answering? name (above ++ below) := by
  induction above with
  | nil => rw [List.nil_append, answering?, h]; rfl
  | cons w above ih => rw [List.cons_append, List.cons_append, answering?, answering?, ih]

/-- A frame that was not made by a look-up has no part in where look-ups come from. -/
theorem origin_append_cons (root : Value) {v : Value} (h : v.origin = 0)
    (above below : List Value) :
    Scope.origin ⟨root, above ++ v :: below⟩ = Scope.origin ⟨root, above ++ below⟩ := by
  unfold Scope.origin frames
  induction above with
  | nil => simp [h]
  | cons w above ih => simpa using congrArg (max w.origin) ih

/-- A name is looked up as without the frame. -/
theorem look_of_withFrame (hframe : frame.Silent Named) {s s' : Scope}
    (h : WithFrame frame scope s s') (hname : Named name) (hself : name ≠ itself) (m : Memory) :
    s.look name m = s'.look name m := by
  obtain ⟨above, rfl, rfl⟩ := h
  have hframes : ((⟨scope.root, above ++ frame :: scope.inner⟩ : Scope).asOf m).frames =
      above.map (Value.asOf m) ++ frame.asOf m :: (scope.asOf m).frames := by
    simp [asOf, frames]
  have hframes' : ((⟨scope.root, above ++ scope.inner⟩ : Scope).asOf m).frames =
      above.map (Value.asOf m) ++ (scope.asOf m).frames := by
    simp [asOf, frames]
  have hmember := hframe.member hname
  unfold look lookFrom resolveFrom
  dsimp only
  rw [if_neg hself, if_neg hself, if_neg hself, if_neg hself, hframes, hframes',
    answering?_append_cons (hmember 0 m), firstMember_append_cons (hmember _ m)]
  rcases hframe.origin with horigin | horigin
  · rw [origin_append_cons _ horigin]
  · rw [firstMember_origin (horigin hname)]

end Scope

namespace Walk

variable {L : Type}

/-- A frame that answers for no name is not noticed. -/
theorem twins_withFrame {Named : String → Prop} (hself : ¬ Named Scope.itself) {frame : Value}
    (hframe : frame.Silent Named) (scope : Scope) :
    Twins Named (Scope.WithFrame frame scope) (fun v w => v = w) fun _ => True where
  look {_ _ name m} h hname _ := by
    have hne : name ≠ Scope.itself := by
      rintro rfl
      exact hself hname
    rw [Scope.look_of_withFrame hframe h hname hne]
    exact ⟨EndsAlike.refl (fun _ => rfl) _, rfl, trivial⟩
  items {v w m} h _ := by
    subst h
    refine ⟨EndsAlike.refl (fun items => ?_) _, rfl, trivial⟩
    cases items with
    | none => exact .none
    | some items => exact .some (List.forall₂_same.2 fun _ _ => rfl)
  absent h := by rw [h]
  shown h := by simp [h]
  push := by
    rintro _ _ v w ⟨above, rfl, rfl⟩ rfl
    exact ⟨v :: above, rfl, rfl⟩

/-- A walk again and again, as long as it does not fail. -/
def times (w : Walk L Unit) : Nat → Walk L Unit
  | 0 => pure ()
  | n + 1 => w >>= fun _ => times w n

/-- A section walks its body with each of its frames. -/
theorem node_eq_forM {v : Value} (hplain : v.isPlain = true) {scope : Scope} {name : String}
    {p : Progress L} {m : Memory} (hlook : scope.look name p.memory = (.ok v, m))
    (finder : Finder L) (enter : Scope → Template → Walk L Unit) (body : List Node) :
    node finder enter scope (.block false name body) p =
      (v.sectionFrames.forM fun frame => nodes finder enter (scope.push frame) body)
        { p with memory := m } := by
  obtain ⟨found, hfound⟩ := Value.exists_items?_of_isPlain hplain
  rw [node, bind_apply, resolve_apply hlook]
  unfold Value.sectionFrames
  by_cases habsent : v.isAbsent = true
  · simp only [if_pos habsent]
    rfl
  · simp only [if_neg habsent]
    rw [bind_apply, items?_apply, Value.readItems_of_isLasting (v.isLasting_of_isPlain hplain),
      hfound]
    cases found with
    | some items => rfl
    | none =>
      show _ = (nodes finder enter (scope.push v) body >>= fun _ => pure ()) _
      rw [bind_pure_unit]
      rfl

/-- Walks over frames that cannot be told from one walk are that walk as often as there are
frames. -/
theorem parallel_times {R : L → L → Prop} {K : Memory → Prop} {w : Walk L Unit}
    {f : Value → Walk L Unit} {frames : List Value}
    (h : ∀ frame ∈ frames, Parallel R K (f frame) w) :
    Parallel R K (frames.forM f) (w.times frames.length) := by
  induction frames with
  | nil => exact inStep_pure ()
  | cons frame rest ih =>
    obtain ⟨hfirst, hrest⟩ := List.forall_mem_cons.1 h
    exact hfirst.bind fun _ => ih hrest

/-- If no frame of a section has a member that is asked for in the section, walking the body with
each frame is walking it in the scope around it as often as there are frames. -/
theorem parallel_section {templates : List (String × Template)} {body : List Node}
    (hself : ¬ Template.Mentions templates ⟨"", body⟩ Scope.itself) (scope : Scope) {v : Value}
    (hsilent : ∀ frame ∈ v.sectionFrames, frame.Silent (Template.Mentions templates ⟨"", body⟩))
    (depth : Nat) (active : List String) :
    Parallel (fun l l' => l = templates ∧ l' = templates) (fun _ => True)
      (v.sectionFrames.forM fun frame =>
        nodes lookupFinder (template lookupFinder depth active) (scope.push frame) body)
      ((nodes lookupFinder (template lookupFinder depth active) scope body).times
        v.sectionCount) := by
  have hknown := confined_mentions templates ⟨"", body⟩
  rw [← v.length_sectionFrames]
  apply parallel_times
  intro frame hframe
  have htwins := twins_withFrame hself (hsilent frame hframe) scope
  exact parallel_nodes htwins hknown depth active (fun n hn => .own hn) ⟨[], rfl, rfl⟩

/-! ## Copies -/

section
variable {Kind : L → Prop} {m : Memory} {w : Walk L Unit} {chunks : List String}

/-- A walk that comes out the same again writes the same chunks again. -/
theorem ComesTo.times (h : ComesTo Kind m w chunks (.ok ())) (n : Nat) :
    ComesTo Kind m (w.times n) (List.replicate n chunks).flatten (.ok ()) := by
  induction n with
  | zero => exact fun p hp => ⟨rfl, rfl, hp.memory, hp.library⟩
  | succ n ih => exact h.bind_ok ih

/-- What a walk comes to is written behind what stands there. -/
theorem ComesTo.chunks_eq {result : Except Fault Unit} (h : ComesTo Kind m w chunks result)
    {p : Progress L} (hp : Settled Kind m p) :
    (w p).1 = result ∧ (w p).2.sink.chunks = p.sink.chunks ++ chunks := by
  obtain ⟨hresult, hsink, -⟩ := h p hp
  refine ⟨hresult, ?_⟩
  rw [hsink]
  simp [Progress.wrote, Sink.chunks]

/-- Walked a number of times, a walk that repeats gives as many copies of its chunks, or those of
the first time if that fails. -/
theorem Repeats.times (h : Repeats Kind m w) (n : Nat) {p : Progress L} (hp : Settled Kind m p) :
    ∃ chunks, (w p).2.sink.chunks = p.sink.chunks ++ chunks ∧
      match (w p).1 with
      | .ok _ => (w.times n p).1 = .ok () ∧ (w.times n p).2.sink.chunks =
          p.sink.chunks ++ (List.replicate n chunks).flatten
      | .error fault =>
        if n = 0 then (w.times n p).1 = .ok () ∧ (w.times n p).2.sink.chunks = p.sink.chunks
        else (w.times n p).1 = .error fault ∧
          (w.times n p).2.sink.chunks = p.sink.chunks ++ chunks := by
  obtain ⟨chunks, result, honce⟩ := h
  obtain ⟨hresult, hchunks⟩ := honce.chunks_eq hp
  refine ⟨chunks, hchunks, ?_⟩
  rw [hresult]
  cases result with
  | ok _ => exact (honce.times n).chunks_eq hp
  | error fault =>
    cases n with
    | zero => exact ⟨rfl, rfl⟩
    | succ n =>
      -- the first time fails, and there is no second time
      exact (honce.bind_error fun _ => w.times n).chunks_eq hp

end

end Walk

/-- The names that a template mentions are those of the nodes that can be reached from it. -/
theorem Node.keeps_mentions (templates : List (String × Template)) (t : Template) :
    Keeps (fun name => .ok (templates.lookup name)) (t.Mentions templates)
      (t.Reaches templates) where
  name hn hname := ⟨_, hn, hname⟩
  body := .inside
  found hname hu _ hn := .included hname (Except.ok.inj hu) hn

/-- Frames of scalars and collections are transparent, as long as no buffer among them answers for a
name in the section or in a template that is included there. If nothing there asks for the frame
itself, walking the section is walking its body in the scope around it, once for each frame, when
the section's name has been looked up. In a scope without streams, in which the names in the section
change no buffer, and into a sink that takes everything, these are copies of the chunks that the
body gives once. -/
theorem section_transparent (templates : List (String × Template)) (body : List Node)
    (hself : ¬ Template.Mentions templates ⟨"", body⟩ Scope.itself) {scope : Scope} {name : String}
    {v : Value} {m : Memory} {p : Progress (List (String × Template))}
    (hlook : scope.look name p.memory = (.ok v, m)) (hplain : v.isPlain = true)
    (hbuffers : ∀ id bs, .buffer id bs ∈ v.sectionFrames → ∀ name,
      Template.Mentions templates ⟨"", body⟩ name → Value.member? 0 (.buffer id bs) name = .ok none)
    (depth : Nat) (active : List String) (hp : p.library = templates) :
    let enter := Walk.template lookupFinder depth active
    let once := Walk.nodes lookupFinder enter scope body
    let looked : Progress (List (String × Template)) := { p with memory := m }
    let run := Walk.node lookupFinder enter scope (.block false name body) p
    let copies := once.times v.sectionCount looked
    (run.1 = copies.1 ∧ run.2.sink = copies.2.sink ∧ run.2.memory = copies.2.memory ∧
      Notice.warnings run.2.notices = Notice.warnings copies.2.notices) ∧
    (scope.All (fun frame => frame.isLasting = true) →
      Template.Leaves templates ⟨"", body⟩ scope → p.sink.capacity = none →
      ∃ chunks, (once looked).2.sink.chunks = p.sink.chunks ++ chunks ∧
        match (once looked).1 with
        | .ok _ => run.1 = .ok () ∧ run.2.sink.chunks =
            p.sink.chunks ++ (List.replicate v.sectionCount chunks).flatten
        | .error fault =>
          if v.sectionCount = 0 then run.1 = .ok () ∧ run.2.sink.chunks = p.sink.chunks
          else run.1 = .error fault ∧ run.2.sink.chunks = p.sink.chunks ++ chunks) := by
  intro enter once looked run copies
  have hsilent := Value.silent_of_sectionFrames hplain hbuffers
  have hrun : run = _ := Walk.node_eq_forM hplain hlook lookupFinder enter body
  -- the frames are silent for every name in the body, so the section runs in parallel with copies
  obtain ⟨hresult, hmatches, -⟩ := Walk.parallel_section hself scope hsilent depth active looked
    looked ⟨⟨rfl, rfl, rfl, hp, hp⟩, trivial⟩
  rw [← hrun] at hresult hmatches
  refine ⟨⟨hresult, hmatches.sink, hmatches.memory, hmatches.warnings⟩, ?_⟩
  intro hlasting hleaves hcapacity
  obtain ⟨Q, hsteady, hscope, -⟩ := hleaves.exists_steady hleaves
  have hfinder := answers_lookupFinder templates
  have hknown := Node.keeps_mentions templates ⟨"", body⟩
  have hboth := hsteady.and Value.closed_isLasting
  -- where nothing is used up or changed, every copy comes to what the first one does
  have hrepeats : Walk.Repeats (· = templates) m once :=
    Walk.repeats_nodes hfinder hboth (fun _ h => h.2) hknown depth active
      (fun frame hframe => ⟨hscope frame hframe, hlasting frame hframe⟩) fun n hn => .own hn
  rw [hresult, hmatches.sink]
  exact hrepeats.times v.sectionCount ⟨hp, hcapacity, rfl⟩

/-! A list of many kinds of values, and a row that shows none of them. -/

namespace MixedList

def row : Template := ⟨"row", [.text "-", .variable "label" true]⟩

def templates : List (String × Template) := [("row", row)]

def items : Value := .list [.int 1, .null, .tuple [.text "a"], .bool false, .buffer (.given 0) [97]]

def data : Value := .map [(.text "x", items), (.text "label", .text "L")]

theorem mem_of_reaches {n : Node}
    (h : Template.Reaches templates ⟨"", [.inclusion "row"]⟩ n) :
    n = .inclusion "row" ∨ n ∈ row.nodes := by
  induction h with
  | own h => exact .inl (List.mem_singleton.1 h)
  | inside _ _ ih => simp [row] at ih
  | included _ hu h ih =>
    obtain rfl : _ = "row" := by simpa [row] using ih
    cases hu
    exact .inr h

theorem name_of_mentions {name : String}
    (h : Template.Mentions templates ⟨"", [.inclusion "row"]⟩ name) : name = "label" := by
  obtain ⟨n, hn, hname⟩ := h
  rcases mem_of_reaches hn with rfl | hn
  · cases hname
  · rcases List.mem_pair.1 hn with rfl | rfl
    · cases hname
    · exact (Option.some.inj hname).symm

end MixedList

open MixedList in
/-- Every item of the list gives a row, absent ones and lists among them; the buffer has no member
of the one name in the row. -/
theorem section_transparent_mixed :
    ¬ Template.Mentions templates ⟨"", [.inclusion "row"]⟩ "." ∧
    (Scope.ofRoot data).resolve "x" = .ok items ∧ items.isPlain = true ∧
    (Walk.node lookupFinder (Walk.template lookupFinder 1 ["page"]) (.ofRoot data)
      (.block false "x" [.inclusion "row"]) ⟨{}, {}, [], templates⟩).2.sink.chunks =
        (List.replicate 5 ["-", "L"]).flatten := by
  have hself : ¬ Template.Mentions templates ⟨"", [.inclusion "row"]⟩ "." := by
    intro h
    exact absurd (name_of_mentions h) (by decide)
  have hlook : (Scope.ofRoot data).look "x" {} = (.ok items, {}) := rfl
  have hplain : items.isPlain = true := by decide
  -- the only buffer among the items has no member under the name in the body
  have hbuffers : ∀ id bs, .buffer id bs ∈ items.sectionFrames → ∀ name,
      Template.Mentions templates ⟨"", [.inclusion "row"]⟩ name →
      Value.member? 0 (.buffer id bs) name = .ok none := by
    intro id bs hbs name hmentioned
    obtain rfl := name_of_mentions hmentioned
    obtain ⟨rfl, rfl⟩ : id = .given 0 ∧ bs = [97] := by
      simpa [items, Value.sectionFrames, Value.isAbsent, Value.items?] using hbs
    rfl
  have hlasting : (Scope.ofRoot data).All fun frame => frame.isLasting = true :=
    Scope.all_ofRoot (by decide)
  have hleaves : Template.Leaves templates ⟨"", [.inclusion "row"]⟩ (.ofRoot data) := by
    refine .inl fun name hmentioned => ?_
    rw [name_of_mentions hmentioned]
    decide
  -- every item pushes a frame that answers for no name in the body
  obtain ⟨-, hcopies⟩ := section_transparent templates [.inclusion "row"] hself
    (p := ⟨{}, {}, [], templates⟩) hlook hplain hbuffers 1 ["page"] rfl
  obtain ⟨chunks, honce, hrun⟩ := hcopies hlasting hleaves rfl
  have hbody : (Walk.nodes lookupFinder (Walk.template lookupFinder 1 ["page"]) (.ofRoot data)
      [.inclusion "row"] ⟨{}, {}, [], templates⟩).2.sink.chunks = ["-", "L"] := by decide +kernel
  obtain rfl : chunks = ["-", "L"] := (honce.symm.trans hbody)
  exact ⟨hself, rfl, hplain, hrun.2⟩

/-- A buffer is counted like bytes and has no items, but it has members: a section of it shows the
buffer's own title and not the title in the scope around it. -/
theorem section_buffer_not_transparent :
    let body : List Node := [.variable "title" true]
    let buffer : Value := .buffer (.given 0) [97, 98]
    let data : Value := .map [(.text "x", buffer), (.text "title", .text "T")]
    Template.compile "{{#x}}{{title}}{{/x}}" "page" = .ok ⟨"page", [.block false "x" body]⟩ ∧
    ¬ Template.Mentions [] ⟨"", body⟩ Scope.itself ∧ data.isLasting = true ∧
    (Scope.ofRoot data).resolve "x" = .ok buffer ∧ buffer.isPlain = true ∧
    buffer.sectionCount = 1 ∧
    (renderWith [] ⟨"page", [.block false "x" body]⟩ data {}).2.sink.chunks =
      ["bytearray(b&#x27;Ab&#x27;)"] ∧
    (renderWith [] ⟨"page", body⟩ data {}).2.sink.chunks = ["T"] := by
  intro body buffer data
  have hself : ¬ Template.Mentions [] ⟨"", body⟩ Scope.itself := by
    rintro ⟨n, hn, hname⟩
    have hmem : n = .variable "title" true := by
      clear hname
      induction hn with
      | own h => exact List.mem_singleton.1 h
      | inside _ _ ih => cases ih
      | included _ _ _ ih => cases ih
    rw [hmem] at hname
    exact absurd (Option.some.inj hname) (by decide)
  refine ⟨by with_unfolding_all rfl, hself, by decide, rfl, rfl, rfl, ?_, ?_⟩
  · decide +kernel
  · decide +kernel

end Mustache
