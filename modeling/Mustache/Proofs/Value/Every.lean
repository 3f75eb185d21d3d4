import Mustache.Proofs.Lookup
import Mustache.Scope

/-!
# What a template can get from a value

Rendering goes from one value to others: to the items of a collection, to what a name gives, and to
the same value after a buffer in it has been changed. A property that is kept on each of these ways
holds of everything that a rendering comes to if it holds of the data.

`Value.every` is the source of such properties. It asks a test of a value and of all values in it;
that there is no stream in a value and that there is no buffer in it are the cases used most.
-/

namespace Mustache

namespace Value

mutual

/-- Whether a test holds of all values in a value: its items, the values of its entries and those of
its members. -/
def inside (test : Value → Bool) : Value → Bool
  | .list items | .tuple items | .set items | .frozenSet items | .stream _ items =>
    allInside test items
  | .map entries | .view entries _ => entriesInside test entries
  | .object members (.ok (some items)) _ _ => membersInside test members && allInside test items
  | .object members _ _ _ => membersInside test members
  | _ => true

/-- Whether it holds of each item and in it. -/
def allInside (test : Value → Bool) : List Value → Bool
  | [] => true
  | item :: rest => test item && inside test item && allInside test rest

/-- Whether it holds of each value of a mapping and in it. -/
def entriesInside (test : Value → Bool) : List (Value × Value) → Bool
  | [] => true
  | (_, value) :: rest => test value && inside test value && entriesInside test rest

/-- Whether it holds of each member that is a value and in it. -/
def membersInside (test : Value → Bool) : List (String × Member) → Bool
  | [] => true
  | (_, .value v) :: rest => test v && inside test v && membersInside test rest
  | _ :: rest => membersInside test rest

end

/-- Whether a test holds of a value and of all values in it. -/
def every (test : Value → Bool) (v : Value) : Bool := test v && v.inside test

/-- Whether a value is a stream. -/
def isStream : Value → Bool
  | .stream .. => true
  | _ => false

/-- Whether a value is a buffer. -/
def isBuffer : Value → Bool
  | .buffer .. => true
  | _ => false

/-- Whether a value has no stream in it. Such a value lasts: its items can be had again. -/
def isLasting (v : Value) : Bool := v.every fun w => !w.isStream

/-- Whether a value has no buffer in it. Such a value stays as it is. -/
def isFixed (v : Value) : Bool := v.every fun w => !w.isBuffer

/-- A property of values that goes over to what a template can get from them. -/
structure Closed (Q : Value → Prop) : Prop where
  null : Q .null
  item : ∀ {v items}, Q v → v.items? = .ok (some items) → ∀ item ∈ items, Q item
  member : ∀ {origin v name w}, Q v → v.member? origin name = .ok (some w) → Q w
  refreshed : ∀ {v} (m : Memory), Q v → Q (v.refreshed m)

theorem closed_true : Closed fun _ => True :=
  ⟨trivial, fun _ _ _ _ => trivial, fun _ _ => trivial, fun _ _ => trivial⟩

/-- Two properties that go over to all that is got from a value do so together. -/
theorem Closed.and {Q Q' : Value → Prop} (h : Closed Q) (h' : Closed Q') :
    Closed fun v => Q v ∧ Q' v where
  null := ⟨h.null, h'.null⟩
  item hv hitems item hitem := ⟨h.item hv.1 hitems item hitem, h'.item hv.2 hitems item hitem⟩
  member hv hfound := ⟨h.member hv.1 hfound, h'.member hv.2 hfound⟩
  refreshed m hv := ⟨h.refreshed m hv.1, h'.refreshed m hv.2⟩

/-- A property that goes over holds of a buffer whatever it holds by now. -/
theorem Closed.asOf {Q : Value → Prop} (h : Closed Q) {v : Value} (m : Memory) (hv : Q v) :
    Q (v.asOf m) := by
  unfold Value.asOf
  split
  · exact hv
  · exact h.refreshed m hv

/-- Items have the property as well, however much of a stream has been read. -/
theorem Closed.items {Q : Value → Prop} (h : Closed Q) {v : Value} (hv : Q v) {m : Memory}
    {items : List Value} (hitems : (Memory.items? v m).1 = .ok (some items)) :
    ∀ item ∈ items, Q item := by
  cases v with
  | stream id all =>
    rw [Memory.items?] at hitems
    split at hitems
    · obtain rfl : [] = items := Option.some.inj (Except.ok.inj hitems)
      simp
    · exact h.item hv hitems
  | _ => exact h.item hv hitems

/-! ## Tests of all values in a value -/

/-- A test that all results of look-ups in dates and buffers pass, and that does not depend on what
a buffer holds. -/
structure Heritable (test : Value → Bool) : Prop where
  null : test .null = true
  bool : ∀ b, test (.bool b) = true
  int : ∀ n, test (.int n) = true
  text : ∀ s, test (.text s) = true
  date : ∀ d, test (.date d) = true
  moment : ∀ m, test (.moment m) = true
  list : ∀ items, test (.list items) = true
  buffer : ∀ {id bs} id' bs', test (.buffer id bs) = true → test (.buffer id' bs') = true
  refreshed : ∀ {v} (m : Memory), test v = true → test (v.refreshed m) = true

section
variable {test : Value → Bool} {v w : Value} {name : String}

theorem allInside_eq (items : List Value) : allInside test items = items.all (every test) := by
  induction items with
  | nil => rfl
  | cons item rest ih => rw [allInside, List.all_cons, ih, every]

/-- Items of a collection pass the test that the collection passes throughout. -/
theorem every_of_allInside {items : List Value} (h : allInside test items = true) :
    ∀ item ∈ items, item.every test = true :=
  List.all_eq_true.1 ((allInside_eq items).symm.trans h)

/-- What is in a value passes the test that the value passes throughout, and so do its items. -/
theorem every_of_items? (htest : Heritable test) (h : v.every test = true) {items : List Value}
    (hitems : v.items? = .ok (some items)) : ∀ item ∈ items, item.every test = true := by
  obtain ⟨-, h⟩ := Bool.and_eq_true_iff.1 h
  cases v with
  | list xs | tuple xs | set xs | frozenSet xs | stream _ xs =>
    obtain rfl : xs = items := Option.some.inj (Except.ok.inj hitems)
    exact every_of_allInside h
  | range start stop step =>
    obtain rfl : rangeItems start stop step = items := Option.some.inj (Except.ok.inj hitems)
    intro item hitem
    obtain ⟨i, -, rfl⟩ := List.mem_map.1 hitem
    exact Bool.and_eq_true_iff.2 ⟨htest.int _, rfl⟩
  | object members xs shown failure =>
    obtain rfl : xs = .ok (some items) := hitems
    exact every_of_allInside (Bool.and_eq_true_iff.1 h).2
  | _ => cases hitems

/-! ### Members -/

/-- So does what a mapping has under a key. -/
theorem every_of_lookup? {entries : List (Value × Value)} (h : entriesInside test entries = true)
    (hfound : lookup? name entries = some w) : w.every test = true := by
  induction entries with
  | nil => cases hfound
  | cons entry rest ih =>
    obtain ⟨key, value⟩ := entry
    obtain ⟨hvalue, hrest⟩ := Bool.and_eq_true_iff.1 h
    unfold lookup? at hfound
    split at hfound
    · next heq => cases heq
    · next heq =>
      obtain ⟨hentry, rfl⟩ := List.cons.inj heq
      obtain rfl := (Prod.mk.inj hentry).2
      split at hfound
      · exact Option.some.inj hfound ▸ hvalue
      · exact ih hrest hfound
    · next heq =>
      obtain ⟨-, rfl⟩ := List.cons.inj heq
      exact ih hrest hfound

/-- So does what an object has for a member. -/
theorem every_of_mem {members : List (String × Member)} (h : membersInside test members = true)
    (hmem : (name, .value w) ∈ members) : w.every test = true := by
  induction members with
  | nil => cases hmem
  | cons entry rest ih =>
    obtain ⟨key, m⟩ := entry
    cases m with
    | value v =>
      obtain ⟨hvalue, hrest⟩ := Bool.and_eq_true_iff.1 h
      rcases List.mem_cons.1 hmem with heq | hmem
      · obtain rfl : w = v := Member.value.inj (Prod.mk.inj heq).2
        exact hvalue
      · exact ih hrest hmem
    | failingProperty failure | failingMethod failure =>
      rcases List.mem_cons.1 hmem with heq | hmem
      · cases heq
      · exact ih h hmem

/-- A member that is given is among those that are kept. -/
theorem eq_value_of_ofMember {m? : Option Member} (h : ofMember m? = .ok (some w)) :
    m? = some (.value w) := by
  match m? with
  | none => cases h
  | some (.value v) => exact congrArg (some ∘ Member.value) (Option.some.inj (Except.ok.inj h))
  | some (.failingProperty failure) =>
    rw [ofMember] at h
    split at h <;> cases h
  | some (.failingMethod failure) => cases h

/-- What the methods of buffers give passes every test that buffers pass. -/
theorem membersInside_results (htest : Heritable test) {id : BufferId} {bs : List UInt8}
    (h : test (.buffer id bs) = true) (origin : Nat) (content : List UInt8) :
    membersInside test (Buffer.results origin content) = true := by
  have hbuffer : ∀ id bs, test (.buffer id bs) = true := fun id' bs' => htest.buffer id' bs' h
  have hpieces (parts : List (List UInt8)) :
      allInside test (parts.mapIdx fun i part => .buffer (.made origin i) part) = true := by
    rw [allInside_eq, List.all_eq_true]
    intro item hitem
    obtain ⟨i, hi, rfl⟩ := List.mem_mapIdx.1 hitem
    exact Bool.and_eq_true_iff.2 ⟨hbuffer _ _, rfl⟩
  unfold Buffer.results Buffer.decoded Buffer.last
  cases Text.decodeUtf8 0 0 content <;> cases content.getLast? <;>
    simp [membersInside, inside, hbuffer, hpieces, htest.null, htest.bool, htest.int, htest.text,
      htest.list]

theorem every_of_dateMembers (htest : Heritable test) (d : Date) :
    ∀ entry ∈ dateMembers d, entry.2.every test = true := by
  simp [dateMembers, every, inside, htest.int, htest.text, htest.date]

/-- The members of moments, those of their days among them, pass every such test. -/
theorem every_of_momentMembers (htest : Heritable test) (m : Moment) :
    ∀ entry ∈ momentMembers m, entry.2.every test = true := by
  unfold momentMembers
  refine List.forall_mem_append.2 ⟨?_, every_of_dateMembers htest m.date⟩
  cases m.offset <;>
    simp [every, inside, htest.null, htest.int, htest.text, htest.date, htest.moment]

/-- A value with a table of members gives what is in the table. -/
theorem every_of_ofNamed {needy : List String} {members : List (String × Value)}
    (h : ∀ entry ∈ members, entry.2.every test = true)
    (hfound : ofNamed needy members name = .ok (some w)) : w.every test = true := by
  unfold ofNamed at hfound
  split at hfound
  · cases hfound
  · split at hfound
    · cases hfound
    · exact h _ (mem_of_lookup (Except.ok.inj hfound))

/-- Whatever a value answers for a name passes the test that the value passes throughout. -/
theorem every_of_member? (htest : Heritable test) (h : v.every test = true) {origin : Nat}
    (hfound : v.member? origin name = .ok (some w)) : w.every test = true := by
  obtain ⟨hself, h⟩ := Bool.and_eq_true_iff.1 h
  cases v with
  | map entries => exact every_of_lookup? h (Except.ok.inj hfound)
  | view entries shown => exact every_of_lookup? h (Except.ok.inj hfound)
  | buffer id content =>
    rw [member?] at hfound
    split at hfound
    · cases hfound
    -- what a buffer answers is one of the values that were checked for its name
    · have hmember := eq_value_of_ofMember hfound
      unfold Buffer.member? at hmember
      split at hmember
      · cases hmember
      · exact every_of_mem (membersInside_results htest hself origin content)
          (mem_of_lookup hmember)
  | object members items shown failure =>
    have hmembers : membersInside test members = true := by
      rcases items with _ | _ | items
      · exact h
      · exact h
      · exact (Bool.and_eq_true_iff.1 h).1
    rw [member?] at hfound
    split at hfound
    · cases hfound
    · exact every_of_mem hmembers (mem_of_lookup (eq_value_of_ofMember hfound))
  | date d => exact every_of_ofNamed (every_of_dateMembers htest d) hfound
  | moment m => exact every_of_ofNamed (every_of_momentMembers htest m) hfound
  | _ => cases hfound

/-! ### Changed buffers -/

mutual

/-- A value passes the test inside whatever its buffers hold by now. -/
theorem inside_refreshed (htest : Heritable test) (m : Memory) : (v : Value) →
    v.inside test = true → (v.refreshed m).inside test = true
  | .list items, h | .tuple items, h | .set items, h | .frozenSet items, h | .stream _ items, h =>
    allInside_refreshed htest m items h
  | .map entries, h | .view entries _, h => entriesInside_refreshed htest m entries h
  | .object members (.ok (some items)) _ _, h => by
    obtain ⟨hmembers, hitems⟩ := Bool.and_eq_true_iff.1 h
    exact Bool.and_eq_true_iff.2 ⟨membersInside_refreshed htest m members hmembers,
      allInside_refreshed htest m items hitems⟩
  | .object members (.ok none) _ _, h | .object members (.error _) _ _, h =>
    membersInside_refreshed htest m members h
  | .null, _ | .bool _, _ | .int _, _ | .float _, _ | .text _, _ | .bytes _, _ | .buffer .., _
  | .range .., _ | .date _, _ | .moment _, _ => rfl

theorem allInside_refreshed (htest : Heritable test) (m : Memory) : (items : List Value) →
    allInside test items = true → allInside test (allRefreshed m items) = true
  | [], _ => rfl
  | item :: rest, h => by
    simp only [allInside, Bool.and_eq_true] at h
    simp only [allRefreshed, allInside, Bool.and_eq_true]
    exact ⟨⟨htest.refreshed m h.1.1, inside_refreshed htest m item h.1.2⟩,
      allInside_refreshed htest m rest h.2⟩

theorem entriesInside_refreshed (htest : Heritable test) (m : Memory) :
    (entries : List (Value × Value)) → entriesInside test entries = true →
    entriesInside test (entriesRefreshed m entries) = true
  | [], _ => rfl
  | (_, value) :: rest, h => by
    simp only [entriesInside, Bool.and_eq_true] at h
    simp only [entriesRefreshed, entriesInside, Bool.and_eq_true]
    exact ⟨⟨htest.refreshed m h.1.1, inside_refreshed htest m value h.1.2⟩,
      entriesInside_refreshed htest m rest h.2⟩

/-- The members of an object do so as well. -/
theorem membersInside_refreshed (htest : Heritable test) (m : Memory) :
    (members : List (String × Member)) → membersInside test members = true →
    membersInside test (membersRefreshed m members) = true
  | [], _ => rfl
  | (_, .value v) :: rest, h => by
    simp only [membersInside, Bool.and_eq_true] at h
    simp only [membersRefreshed, memberRefreshed, membersInside, Bool.and_eq_true]
    exact ⟨⟨htest.refreshed m h.1.1, inside_refreshed htest m v h.1.2⟩,
      membersInside_refreshed htest m rest h.2⟩
  | (_, .failingProperty _) :: rest, h | (_, .failingMethod _) :: rest, h =>
    membersInside_refreshed htest m rest h

end

/-- What passes a test with everything in it goes over to what a template can get. -/
theorem closed_every (htest : Heritable test) : Closed fun v => v.every test = true where
  null := Bool.and_eq_true_iff.2 ⟨htest.null, rfl⟩
  item hv hitems := every_of_items? htest hv hitems
  member hv hfound := every_of_member? htest hv hfound
  refreshed m h := by
    obtain ⟨hself, hinside⟩ := Bool.and_eq_true_iff.1 h
    exact Bool.and_eq_true_iff.2 ⟨htest.refreshed m hself, inside_refreshed htest m _ hinside⟩

end

/-- Without streams in it, a value gives no streams. -/
theorem closed_isLasting : Closed fun v => v.isLasting = true := by
  refine closed_every ⟨rfl, fun _ => rfl, fun _ => rfl, fun _ => rfl, fun _ => rfl, fun _ => rfl,
    fun _ => rfl, fun _ _ _ => rfl, fun {v} m h => ?_⟩
  cases v with
  | stream => cases h
  | object _ items => rcases items with _ | _ | _ <;> rfl
  | _ => rfl

/-- Without buffers in it, a value gives no buffers. -/
theorem closed_isFixed : Closed fun v => v.isFixed = true := by
  refine closed_every ⟨rfl, fun _ => rfl, fun _ => rfl, fun _ => rfl, fun _ => rfl, fun _ => rfl,
    fun _ => rfl, fun _ _ h => ?_, fun {v} m h => ?_⟩
  · cases h
  · cases v with
    | buffer => cases h
    | object _ items => rcases items with _ | _ | _ <;> rfl
    | _ => rfl

end Value

namespace Scope

variable {Q : Value → Prop} {s : Scope} {v : Value} {name : String}

/-- All frames have a property. -/
def All (Q : Value → Prop) (s : Scope) : Prop := ∀ v ∈ s.frames, Q v

theorem all_ofRoot (h : Q v) : (ofRoot v).All Q := fun _ hw => List.mem_singleton.1 hw ▸ h

/-- A section keeps a property of all frames if its value has it. -/
theorem All.push (h : s.All Q) (hv : Q v) : (s.push v).All Q := List.forall_mem_cons.2 ⟨hv, h⟩

theorem All.top (h : s.All Q) : Q s.top := by
  refine h _ ?_
  unfold Scope.top frames
  cases s.inner with
  | nil => exact List.mem_singleton_self _
  | cons frame rest => exact List.mem_cons_self

theorem frames_asOf (m : Memory) (s : Scope) : (s.asOf m).frames = s.frames.map (Value.asOf m) := by
  simp [asOf, frames]

theorem All.asOf (h : s.All Q) (hQ : Value.Closed Q) (m : Memory) : (s.asOf m).All Q := by
  unfold All
  rw [frames_asOf, List.forall_mem_map]
  exact fun v hv => hQ.asOf m (h v hv)

/-- The first answer among some frames has the property that the frames have. -/
theorem of_firstMember (hQ : Value.Closed Q) {frames : List Value} (h : ∀ frame ∈ frames, Q frame)
    {origin : Nat} (hfound : firstMember origin name frames = .ok (some v)) : Q v := by
  induction frames with
  | nil => cases hfound
  | cons frame rest ih =>
    obtain ⟨hframe, hrest⟩ := List.forall_mem_cons.1 h
    unfold firstMember at hfound
    split at hfound
    · cases hfound
    · next found hmember =>
      obtain rfl := Option.some.inj (Except.ok.inj hfound)
      exact hQ.member hframe hmember
    · exact ih hrest hfound

/-- What is resolved in a scope has the properties that its frames have, if they go over. -/
theorem All.resolveFrom (h : s.All Q) (hQ : Value.Closed Q) {origin : Nat}
    (hfound : s.resolveFrom origin name = .ok v) : Q v := by
  unfold Scope.resolveFrom at hfound
  split at hfound
  · obtain rfl := Except.ok.inj hfound
    exact h.top
  · cases hfirst : firstMember origin name s.frames with
    | error failure =>
      rw [hfirst] at hfound
      cases hfound
    | ok found =>
      rw [hfirst] at hfound
      obtain rfl : found.getD .null = v := Except.ok.inj hfound
      cases found with
      | none => exact hQ.null
      | some w => exact of_firstMember hQ h hfirst

/-- What is found in a scope has the property that all frames have. -/
theorem All.look (h : s.All Q) (hQ : Value.Closed Q) {m : Memory}
    (hfound : (s.look name m).1 = .ok v) : Q v := (h.asOf hQ m).resolveFrom hQ hfound

end Scope

end Mustache
