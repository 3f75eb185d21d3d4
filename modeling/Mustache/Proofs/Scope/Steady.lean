import Mustache.Proofs.Value.Every

/-!
# Look-ups that change nothing

Three methods of buffers change what a buffer holds, and a look-up is all that calls a method. So
looking names up leaves the data as they are if none of them is the name of such a method, and also
if no frame has a buffer in it. `Value.Steady` covers both: it asks only that no buffer with a
property that goes over is changed by the names in question.
-/

namespace Mustache

/-- The names of the methods that change a buffer. -/
def Value.Buffer.changing : List String := ["pop", "clear", "reverse"]

namespace Value

/-- Only three names change a buffer. -/
theorem Buffer.after_of_not_mem {name : String} (h : name ∉ changing) (bs : List UInt8) :
    after bs name = bs := by
  simp only [changing, List.mem_cons, List.not_mem_nil, or_false, not_or] at h
  rw [after, if_neg h.1, if_neg h.2.1, if_neg h.2.2]

/-- A property of values that goes over, and with it names that change no buffer that has it. -/
structure Steady (Named : String → Prop) (Q : Value → Prop) : Prop extends Closed Q where
  after : ∀ {id bs name}, Named name → Q (.buffer id bs) → Buffer.after bs name = bs

variable {Named : String → Prop} {Q : Value → Prop}

/-- Data are steady under names that change no buffer. -/
theorem steady_of_names (hnames : ∀ name, Named name → name ∉ Buffer.changing) (hQ : Closed Q) :
    Steady Named Q :=
  ⟨hQ, fun hname _ => Buffer.after_of_not_mem (hnames _ hname) _⟩

theorem steady_isFixed (Named : String → Prop) : Steady Named fun v => v.isFixed = true :=
  ⟨closed_isFixed, fun _ h => by cases h⟩

/-- What else is kept may be asked as well. -/
theorem Steady.and (h : Steady Named Q) {Q' : Value → Prop} (hQ' : Closed Q') :
    Steady Named fun v => Q v ∧ Q' v :=
  ⟨h.toClosed.and hQ', fun hname hv => h.after hname hv.1⟩

/-- Fewer names change no more. -/
theorem Steady.mono (h : Steady Named Q) {Fewer : String → Prop}
    (hfewer : ∀ name, Fewer name → Named name) : Steady Fewer Q :=
  ⟨h.toClosed, fun hname => h.after (hfewer _ hname)⟩

/-- Asking for items changes no buffer. -/
theorem buffers_items? (v : Value) (m : Memory) : (Memory.items? v m).2.buffers = m.buffers := by
  unfold Memory.items?
  split
  · split <;> rfl
  · rfl

/-- As long as no buffer has been changed, values are as they were given. -/
theorem asOf_of_buffers {m : Memory} (h : m.buffers = []) (v : Value) : v.asOf m = v := by
  rw [asOf, h]
  rfl

end Value

namespace Scope

variable {Named : String → Prop} {Q : Value → Prop} {s : Scope} {m : Memory} {name : String}
  {v : Value}

theorem asOf_of_buffers (h : m.buffers = []) (s : Scope) : s.asOf m = s := by
  have hmap : s.inner.map (Value.asOf m) = s.inner :=
    List.map_id'' (Value.asOf_of_buffers h) s.inner
  rw [asOf, Value.asOf_of_buffers h, hmap]

/-- Where nothing has been changed, a look-up gives what the name resolves to. -/
theorem fst_look_of_buffers (h : m.buffers = []) (s : Scope) (name : String) :
    (s.look name m).1 = s.resolve name := by
  have horigin : m.origin = 0 := by rw [Memory.origin, h]; rfl
  rw [look, lookFrom, asOf_of_buffers h, horigin, Nat.max_zero]
  rfl

/-- The value that answers is one of the frames. -/
theorem mem_of_answering? {frames : List Value} (h : answering? name frames = some v) :
    v ∈ frames := by
  induction frames with
  | nil => cases h
  | cons frame rest ih =>
    unfold answering? at h
    split at h
    · exact List.mem_cons_of_mem _ (ih h)
    · exact Option.some.inj h ▸ List.mem_cons_self

/-- A look-up reads no stream. -/
theorem spent_look (s : Scope) (name : String) (m : Memory) :
    (s.look name m).2.spent = m.spent := by
  unfold look lookFrom Memory.lookedUp
  dsimp only
  split
  · rfl
  · split
    · rfl
    · split
      · split <;> rfl
      · rfl

/-- A look-up that changes something changes a buffer among the frames. -/
theorem exists_buffer_of_lookFrom {origin : Nat} (h : (s.lookFrom origin name m).2 ≠ m) :
    ∃ id bs, .buffer id bs ∈ (s.asOf m).frames ∧ Value.Buffer.after bs name ≠ bs := by
  unfold lookFrom at h
  dsimp only at h
  split at h
  · exact absurd rfl h
  · cases hanswering : answering? name (s.asOf m).frames with
    | none =>
      rw [hanswering] at h
      exact absurd rfl h
    | some v =>
      rw [hanswering] at h
      cases v with
      | buffer id bs =>
        refine ⟨id, bs, mem_of_answering? hanswering, fun hsame => h ?_⟩
        exact if_pos hsame
      | _ => exact absurd rfl h

/-- Names that change no buffer leave the data as they are. -/
theorem snd_lookFrom_of_steady (hsteady : Value.Steady Named Q) (hs : s.All Q) (hname : Named name)
    (origin : Nat) (m : Memory) : (s.lookFrom origin name m).2 = m := by
  by_contra hchanged
  obtain ⟨id, bs, hmem, hafter⟩ := exists_buffer_of_lookFrom hchanged
  exact hafter (hsteady.after hname (hs.asOf hsteady.toClosed m _ hmem))

/-- Where nothing has been changed, names that change no buffer are resolved and that is all. -/
theorem look_of_steady (hsteady : Value.Steady Named Q) (hs : s.All Q) (hname : Named name)
    (hm : m.buffers = []) : s.look name m = (s.resolve name, m) :=
  Prod.ext (fst_look_of_buffers hm s name) (snd_lookFrom_of_steady hsteady hs hname _ m)

end Scope

end Mustache
