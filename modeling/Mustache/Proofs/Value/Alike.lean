import Mathlib.Data.List.Forall2
import Mathlib.Data.Option.Defs
import Mustache.Value.Memory
import Mustache.Value.Text

/-!
# Values that differ in private members

Two values are alike if they differ at most in the private members of the objects in them, at any
depth: in lists, under the keys of mappings, and as members of other objects. What an object gives
when it is shown or iterated is no member of it, and has to be the same, or alike. A leeway says
what else may differ.

Alike values cannot be told apart by what templates ask of a value: they have the same text, they
are absent together, they hold items that are alike, and a name gives members that are alike.
-/

namespace Mustache

/-- Two computations end alike: in the same failure, or in results that are related. -/
inductive EndsAlike {α β : Type} (R : α → β → Prop) : Except Failure α → Except Failure β → Prop
  | failed (failure : Failure) : EndsAlike R (.error failure) (.error failure)
  | done {a : α} {b : β} (h : R a b) : EndsAlike R (.ok a) (.ok b)

theorem EndsAlike.refl {α : Type} {R : α → α → Prop} (h : ∀ a, R a a) (x : Except Failure α) :
    EndsAlike R x x := by
  cases x with
  | error failure => exact .failed failure
  | ok a => exact .done (h a)

/-- What is known of the results on either side can be added to what relates them. -/
theorem EndsAlike.and {α β : Type} {R : α → β → Prop} {P : α → Prop} {Q : β → Prop}
    {x : Except Failure α} {y : Except Failure β} (h : EndsAlike R x y)
    (hx : ∀ a, x = .ok a → P a) (hy : ∀ b, y = .ok b → Q b) :
    EndsAlike (fun a b => R a b ∧ P a ∧ Q b) x y := by
  cases h with
  | failed failure => exact .failed failure
  | done h => exact .done ⟨h, hx _ rfl, hy _ rfl⟩

theorem forall₂_and {α β : Type} {R : α → β → Prop} {P : α → Prop} {Q : β → Prop} {xs : List α}
    {ys : List β} (h : List.Forall₂ R xs ys) (hxs : ∀ a ∈ xs, P a) (hys : ∀ b ∈ ys, Q b) :
    List.Forall₂ (fun a b => R a b ∧ P a ∧ Q b) xs ys := by
  induction h with
  | nil => exact .nil
  | cons hfirst _ ih =>
    obtain ⟨hx, hxs⟩ := List.forall_mem_cons.1 hxs
    obtain ⟨hy, hys⟩ := List.forall_mem_cons.1 hys
    exact .cons ⟨hfirst, hx, hy⟩ (ih hxs hys)

/-- The same for lists of results. -/
theorem EndsAlike.and_items {α β : Type} {R : α → β → Prop} {P : α → Prop} {Q : β → Prop}
    {x : Except Failure (Option (List α))} {y : Except Failure (Option (List β))}
    (h : EndsAlike (Option.Rel (List.Forall₂ R)) x y)
    (hx : ∀ {items}, x = .ok (some items) → ∀ a ∈ items, P a)
    (hy : ∀ {items}, y = .ok (some items) → ∀ b ∈ items, Q b) :
    EndsAlike (Option.Rel (List.Forall₂ fun a b => R a b ∧ P a ∧ Q b)) x y := by
  cases h with
  | failed failure => exact .failed failure
  | done h =>
    cases h with
    | none => exact .done .none
    | some h => exact .done (.some (forall₂_and h (hx rfl) (hy rfl)))

namespace Value

/-- What may differ in alike values besides private members. -/
inductive Leeway
  | nothing
  /-- Which buffers are the same one, as long as they hold the same. -/
  | identities
  /-- Whether and how objects are iterated. -/
  | iteration
deriving DecidableEq

mutual

/-- Two values differ at most in the private members of the objects in them, and in what a leeway
leaves open. -/
inductive Alike (l : Leeway) : Value → Value → Prop
  | same (v : Value) : Alike l v v
  | list {xs ys : List Value} (h : List.Forall₂ (Alike l) xs ys) : Alike l (.list xs) (.list ys)
  | tuple {xs ys : List Value} (h : List.Forall₂ (Alike l) xs ys) : Alike l (.tuple xs) (.tuple ys)
  | set {xs ys : List Value} (h : List.Forall₂ (Alike l) xs ys) : Alike l (.set xs) (.set ys)
  | frozenSet {xs ys : List Value} (h : List.Forall₂ (Alike l) xs ys) :
    Alike l (.frozenSet xs) (.frozenSet ys)
  | stream (id : Nat) {xs ys : List Value} (h : List.Forall₂ (Alike l) xs ys) :
    Alike l (.stream id xs) (.stream id ys)
  | map {entries entries' : List (Value × Value)}
    (h : List.Forall₂ (EntryAlike l) entries entries') : Alike l (.map entries) (.map entries')
  | view {entries entries' : List (Value × Value)}
    (h : List.Forall₂ (EntryAlike l) entries entries') (shown : String) :
    Alike l (.view entries shown) (.view entries' shown)
  | object {members members' : List (String × Member)}
    (h : ∀ name, isPrivate name = false →
      MemberAlike l (members.lookup name) (members'.lookup name))
    (items : Except Failure (Option (List Value))) (shown : String) (textFailure : Option Failure) :
    Alike l (.object members items shown textFailure) (.object members' items shown textFailure)
  | iterable {members members' : List (String × Member)} {xs ys : List Value}
    (h : ∀ name, isPrivate name = false →
      MemberAlike l (members.lookup name) (members'.lookup name))
    (hitems : List.Forall₂ (Alike l) xs ys) (shown : String) (textFailure : Option Failure) :
    Alike l (.object members (.ok (some xs)) shown textFailure)
      (.object members' (.ok (some ys)) shown textFailure)
  | iterated (hl : l = .iteration) {members members' : List (String × Member)}
    (h : ∀ name, isPrivate name = false →
      MemberAlike l (members.lookup name) (members'.lookup name))
    (items items' : Except Failure (Option (List Value))) (shown : String)
    (textFailure : Option Failure) :
    Alike l (.object members items shown textFailure) (.object members' items' shown textFailure)
  | buffer (hl : l = .identities) (id id' : BufferId) (bs : List UInt8) :
    Alike l (.buffer id bs) (.buffer id' bs)

/-- Entries of mappings that are alike in key and value. -/
inductive EntryAlike (l : Leeway) : Value × Value → Value × Value → Prop
  | mk {key key' value value' : Value} (hkey : Alike l key key') (hvalue : Alike l value value') :
    EntryAlike l (key, value) (key', value')

/-- What two objects have under a public name: nothing, the same, or values that are alike. -/
inductive MemberAlike (l : Leeway) : Option Member → Option Member → Prop
  | same (m : Option Member) : MemberAlike l m m
  | value {v w : Value} (h : Alike l v w) : MemberAlike l (some (.value v)) (some (.value w))

end

variable {l : Leeway}

theorem Alike.refl_all (xs : List Value) : List.Forall₂ (Alike l) xs xs :=
  List.forall₂_same.2 fun v _ => .same v

theorem Alike.refl_found : ∀ found : Option Value, Option.Rel (Alike l) found found
  | none => .none
  | some v => .some (.same v)

theorem Alike.refl_items : ∀ items : Option (List Value),
    Option.Rel (List.Forall₂ (Alike l)) items items
  | none => .none
  | some items => .some (Alike.refl_all items)

/-- The members that templates can ask for. -/
def publicMembers (members : List (String × Member)) : List (String × Member) :=
  members.filter fun entry => !isPrivate entry.1

/-- A public name finds the same among the public members. -/
theorem lookup_publicMembers {name : String} (hname : isPrivate name = false)
    (members : List (String × Member)) :
    (publicMembers members).lookup name = members.lookup name := by
  induction members with
  | nil => rfl
  | cons entry members ih =>
    obtain ⟨key, m⟩ := entry
    rw [publicMembers, List.filter_cons, ← publicMembers, List.lookup_cons]
    by_cases hkey : isPrivate key = true
    · -- a private key is not the name
      have hne : (name == key) = false := by
        rw [beq_eq_false_iff_ne]
        rintro rfl
        rw [hname] at hkey
        cases hkey
      rw [hne, if_neg (by simp [hkey]), ih]
    · rw [if_pos (by simpa using hkey), List.lookup_cons, ih]

/-- Objects are alike if they have the same public members, the same items and the same text. -/
theorem alike_of_publicMembers {members members' : List (String × Member)}
    (h : publicMembers members = publicMembers members')
    (items : Except Failure (Option (List Value))) (shown : String)
    (textFailure : Option Failure) :
    Alike l (.object members items shown textFailure)
      (.object members' items shown textFailure) := by
  refine .object (fun name hname => ?_) items shown textFailure
  rw [← lookup_publicMembers hname members, h, lookup_publicMembers hname members']
  exact .same _

/-! ## Texts -/

mutual

/-- Alike values are shown alike inside a collection. -/
theorem Alike.inspected_eq : (v : Value) → {w : Value} → Alike l v w → v.inspected = w.inspected
  | .list xs, _, h | .tuple xs, _, h | .set xs, _, h | .frozenSet xs, _, h => by
    cases h with
    | same => rfl
    | _ h => rw [inspected, inspected, inspectedItems_eq xs h]
  | .map entries, _, h => by
    cases h with
    | same => rfl
    | map h => rw [inspected, inspected, inspectedEntries_eq entries h]
  | .stream .., _, h | .view .., _, h | .object .., _, h | .buffer .., _, h => by cases h <;> rfl
  | .null, _, h | .bool _, _, h | .int _, _, h | .float _, _, h | .text _, _, h | .bytes _, _, h
  | .range .., _, h | .date _, _, h | .moment _, _, h => by cases h; rfl

/-- Values that are alike have the same text inside a collection. -/
theorem inspectedItems_eq : (xs : List Value) → {ys : List Value} → List.Forall₂ (Alike l) xs ys →
    inspectedItems xs = inspectedItems ys
  | [], _, .nil => rfl
  | x :: xs, _, .cons h hs => by
    rw [inspectedItems, inspectedItems, Alike.inspected_eq x h, inspectedItems_eq xs hs]

theorem inspectedEntries_eq : (entries : List (Value × Value)) → {entries' : List (Value × Value)} →
    List.Forall₂ (EntryAlike l) entries entries' →
      inspectedEntries entries = inspectedEntries entries'
  | [], _, .nil => rfl
  | (key, value) :: entries, _, .cons (.mk hkey hvalue) hs => by
    rw [inspectedEntries, inspectedEntries, Alike.inspected_eq key hkey,
      Alike.inspected_eq value hvalue, inspectedEntries_eq entries hs]

end

mutual

/-- Alike values hold numbers that can be written alike. -/
theorem Alike.isWritable_eq : (v : Value) → {w : Value} → Alike l v w → v.isWritable = w.isWritable
  | .list xs, _, h | .tuple xs, _, h | .set xs, _, h | .frozenSet xs, _, h => by
    cases h with
    | same => rfl
    | _ h => rw [isWritable, isWritable, allWritable_eq xs h]
  | .map entries, _, h => by
    cases h with
    | same => rfl
    | map h => rw [isWritable, isWritable, entriesWritable_eq entries h]
  | .stream .., _, h | .view .., _, h | .object .., _, h | .buffer .., _, h => by cases h <;> rfl
  | .null, _, h | .bool _, _, h | .int _, _, h | .float _, _, h | .text _, _, h | .bytes _, _, h
  | .range .., _, h | .date _, _, h | .moment _, _, h => by cases h; rfl

theorem allWritable_eq : (xs : List Value) → {ys : List Value} → List.Forall₂ (Alike l) xs ys →
    allWritable xs = allWritable ys
  | [], _, .nil => rfl
  | x :: xs, _, .cons h hs => by
    rw [allWritable, allWritable, Alike.isWritable_eq x h, allWritable_eq xs hs]

theorem entriesWritable_eq : (entries : List (Value × Value)) → {entries' : List (Value × Value)} →
    List.Forall₂ (EntryAlike l) entries entries' →
      entriesWritable entries = entriesWritable entries'
  | [], _, .nil => rfl
  | (key, value) :: entries, _, .cons (.mk hkey hvalue) hs => by
    rw [entriesWritable, entriesWritable, Alike.isWritable_eq key hkey,
      Alike.isWritable_eq value hvalue, entriesWritable_eq entries hs]

end

section
variable {v w : Value}

theorem Alike.text?_eq (h : Alike l v w) : v.text? = w.text? := by
  have hinspected := Alike.inspected_eq v h
  have hwritable := Alike.isWritable_eq v h
  cases h with
  | same => rfl
  | object _ _ shown failure => cases failure <;> rfl
  | iterable _ _ shown failure => cases failure <;> rfl
  | iterated _ _ _ _ shown failure => cases failure <;> rfl
  | list | tuple | set | frozenSet | stream | map | view | buffer =>
    exact congrArg₂ (fun writable shown =>
      if writable = true then Except.ok shown else .error tooManyDigits) hwritable hinspected

/-- A variable tag writes the same for alike values. -/
theorem Alike.shown_eq (h : Alike l v w) (escape : Bool) : v.shown escape = w.shown escape := by
  have htext := h.text?_eq
  cases h with
  | same => rfl
  | _ => exact congrArg (Except.map fun s => if escape then Text.escape s else s) htext

theorem Alike.isAbsent_eq (h : Alike l v w) : v.isAbsent = w.isAbsent := by
  cases h <;> rfl

/-! ## Items -/

/-- Alike values hold alike items, or fail to give them in the same way. -/
theorem Alike.items? (h : Alike l v w) (hl : l ≠ .iteration) :
    EndsAlike (Option.Rel (List.Forall₂ (Alike l))) v.items? w.items? := by
  cases h with
  | same => exact EndsAlike.refl Alike.refl_items _
  | list h | tuple h | set h | frozenSet h | stream _ h => exact .done (.some h)
  | map | view | buffer => exact .done .none
  | object => exact EndsAlike.refl Alike.refl_items _
  | iterable _ hitems => exact .done (.some hitems)
  | iterated h => exact absurd h hl

/-- A stream has been read on both sides or on neither. -/
theorem Alike.readItems (h : Alike l v w) (hl : l ≠ .iteration) (m : Memory) :
    EndsAlike (Option.Rel (List.Forall₂ (Alike l))) (Memory.items? v m).1 (Memory.items? w m).1 ∧
      (Memory.items? v m).2 = (Memory.items? w m).2 := by
  have hitems := h.items? hl
  cases h with
  | stream id _ =>
    rw [Memory.items?, Memory.items?]
    split
    · exact ⟨.done (.some .nil), rfl⟩
    · exact ⟨hitems, rfl⟩
  | same => exact ⟨EndsAlike.refl Alike.refl_items _, rfl⟩
  | _ => exact ⟨hitems, rfl⟩

/-! ## Members -/

/-- Alike keys are the same text if one of them is a text. -/
theorem Alike.lookup? {entries entries' : List (Value × Value)}
    (h : List.Forall₂ (EntryAlike l) entries entries') (name : String) :
    Option.Rel (Alike l) (Value.lookup? name entries) (Value.lookup? name entries') := by
  induction h with
  | nil => exact .none
  | cons hentry _ ih =>
    obtain @⟨key, _, _, _, hkey, hvalue⟩ := hentry
    cases hkey with
    | same =>
      cases key with
      | text s =>
        rw [Value.lookup?, Value.lookup?]
        split
        · exact .some hvalue
        · exact ih
      | _ => exact ih
    | _ => exact ih

/-- Members that are alike answer alike. -/
theorem MemberAlike.ofMember {m m' : Option Member} (h : MemberAlike l m m') :
    EndsAlike (Option.Rel (Alike l)) (ofMember m) (ofMember m') := by
  cases h with
  | same => exact EndsAlike.refl Alike.refl_found _
  | value h => exact .done (.some h)

theorem MemberAlike.lookup {members members' : List (String × Member)}
    (h : List.Forall₂ (fun entry entry' => entry.1 = entry'.1 ∧
      MemberAlike l (some entry.2) (some entry'.2)) members members') (name : String) :
    MemberAlike l (members.lookup name) (members'.lookup name) := by
  induction h with
  | nil => exact .same none
  | @cons entry entry' _ _ hentry _ ih =>
    obtain ⟨key, m⟩ := entry
    obtain ⟨key', m'⟩ := entry'
    obtain ⟨rfl, hm⟩ := hentry
    dsimp only [List.lookup]
    split
    · exact hm
    · exact ih

/-- The origin of what a look-up makes in a buffer makes no difference but for identities. -/
theorem Buffer.member?_alike (origin origin' : Nat) (bs : List UInt8) (name : String) :
    MemberAlike .identities (Buffer.member? origin bs name) (Buffer.member? origin' bs name) := by
  have hbuffer (bs : List UInt8) : MemberAlike .identities
      (some (.value (.buffer (.made origin 0) bs)))
      (some (.value (.buffer (.made origin' 0) bs))) :=
    .value (.buffer rfl _ _ bs)
  have hpieces (parts : List (List UInt8)) : MemberAlike .identities
      (some (.value (.list (parts.mapIdx fun i part => .buffer (.made origin i) part))))
      (some (.value (.list (parts.mapIdx fun i part => .buffer (.made origin' i) part)))) := by
    refine .value (.list (List.forall₂_iff_get.2 ⟨by simp, fun i _ _ => ?_⟩))
    simpa using .buffer rfl _ _ _
  unfold Buffer.member?
  split
  · exact .same _
  · apply MemberAlike.lookup
    simp only [Buffer.results, List.forall₂_cons, hbuffer, hpieces, MemberAlike.same,
      List.Forall₂.nil, and_self]

/-- A name gives alike members of alike values, or fails in the same way. -/
theorem Alike.member? (h : Alike l v w) {origin origin' : Nat}
    (horigin : origin = origin' ∨ l = .identities) (name : String) :
    EndsAlike (Option.Rel (Alike l)) (v.member? origin name) (w.member? origin' name) := by
  have hbuffer (id id' : BufferId) (bs : List UInt8) : EndsAlike (Option.Rel (Alike l))
      (Value.member? origin (.buffer id bs) name)
      (Value.member? origin' (.buffer id' bs) name) := by
    rw [Value.member?, Value.member?]
    split
    · exact .done .none
    · rcases horigin with rfl | rfl
      · exact EndsAlike.refl Alike.refl_found _
      · exact (Buffer.member?_alike origin origin' bs name).ofMember
  cases h with
  | same =>
    cases v with
    | buffer id bs => exact hbuffer id id bs
    | _ => exact EndsAlike.refl Alike.refl_found _
  | buffer _ id id' bs => exact hbuffer id id' bs
  | list | tuple | set | frozenSet | stream => exact .done .none
  | map h => exact .done (Alike.lookup? h name)
  | view h => exact .done (Alike.lookup? h name)
  | object h | iterable h | iterated _ h =>
    rw [Value.member?, Value.member?]
    -- a private name is answered before the members are looked at
    cases hname : isPrivate name with
    | true => exact .done .none
    | false => exact (h name hname).ofMember

end

/-! ## Changed buffers -/

/-- Changed buffers change what a member gives, not which member it is. -/
theorem lookup_membersRefreshed (m : Memory) (members : List (String × Member)) (name : String) :
    (membersRefreshed m members).lookup name = (members.lookup name).map (memberRefreshed m) := by
  induction members with
  | nil => rfl
  | cons entry members ih =>
    obtain ⟨key, member⟩ := entry
    rw [membersRefreshed, List.lookup_cons, List.lookup_cons, ih]
    split <;> rfl

theorem refreshed_object (m : Memory) (members : List (String × Member))
    (items : Except Failure (Option (List Value))) (shown : String) (textFailure : Option Failure) :
    (Value.object members items shown textFailure).refreshed m =
      .object (membersRefreshed m members) (items.map (Option.map (allRefreshed m))) shown
        textFailure := by
  rcases items with _ | _ | _ <;> rfl

mutual

/-- Alike values stay alike when the same buffers are changed in them. -/
theorem Alike.refreshed (hl : l ≠ .identities) (m : Memory) : (v : Value) → {w : Value} →
    Alike l v w → Alike l (v.refreshed m) (w.refreshed m)
  | .list xs, _, h => by
    cases h with
    | same => exact .same _
    | list h => exact .list (allRefreshed_alike hl m xs h)
  | .tuple xs, _, h => by
    cases h with
    | same => exact .same _
    | tuple h => exact .tuple (allRefreshed_alike hl m xs h)
  | .set xs, _, h => by
    cases h with
    | same => exact .same _
    | set h => exact .set (allRefreshed_alike hl m xs h)
  | .frozenSet xs, _, h => by
    cases h with
    | same => exact .same _
    | frozenSet h => exact .frozenSet (allRefreshed_alike hl m xs h)
  | .stream id xs, _, h => by
    cases h with
    | same => exact .same _
    | stream _ h => exact .stream id (allRefreshed_alike hl m xs h)
  | .map entries, _, h => by
    cases h with
    | same => exact .same _
    | map h => exact .map (entriesRefreshed_alike hl m entries h)
  | .view entries shown, _, h => by
    cases h with
    | same => exact .same _
    | view h => exact .view (entriesRefreshed_alike hl m entries h) shown
  -- an object that both sides can iterate has items to change as well
  | .object members (.ok (some xs)) shown failure, _, h => by
    cases h with
    | same => exact .same _
    | object h => exact .object (membersRefreshed_alike hl m members h) _ shown failure
    | iterable h hitems =>
      exact .iterable (membersRefreshed_alike hl m members h) (allRefreshed_alike hl m xs hitems)
        shown failure
    | iterated hiteration h =>
      rw [refreshed_object, refreshed_object]
      exact .iterated hiteration (membersRefreshed_alike hl m members h) _ _ shown failure
  | .object members (.ok none) shown failure, _, h
  | .object members (.error _) shown failure, _, h => by
    cases h with
    | same => exact .same _
    | object h => exact .object (membersRefreshed_alike hl m members h) _ shown failure
    | iterated hiteration h =>
      rw [refreshed_object, refreshed_object]
      exact .iterated hiteration (membersRefreshed_alike hl m members h) _ _ shown failure
  -- buffers that may differ in identity would change apart
  | .buffer .., _, h => by
    cases h with
    | same => exact .same _
    | buffer h => exact absurd h hl
  | .null, _, h | .bool _, _, h | .int _, _, h | .float _, _, h | .text _, _, h | .bytes _, _, h
  | .range .., _, h | .date _, _, h | .moment _, _, h => by cases h; exact .same _

/-- Items stay alike as buffers change. -/
theorem allRefreshed_alike (hl : l ≠ .identities) (m : Memory) : (xs : List Value) →
    {ys : List Value} → List.Forall₂ (Alike l) xs ys →
    List.Forall₂ (Alike l) (allRefreshed m xs) (allRefreshed m ys)
  | [], _, .nil => .nil
  | x :: xs, _, .cons h hs => .cons (Alike.refreshed hl m x h) (allRefreshed_alike hl m xs hs)

theorem entriesRefreshed_alike (hl : l ≠ .identities) (m : Memory) :
    (entries : List (Value × Value)) → {entries' : List (Value × Value)} →
    List.Forall₂ (EntryAlike l) entries entries' →
    List.Forall₂ (EntryAlike l) (entriesRefreshed m entries) (entriesRefreshed m entries')
  | [], _, .nil => .nil
  | (_, value) :: entries, _, .cons (.mk hkey hvalue) hs =>
    .cons (.mk hkey (Alike.refreshed hl m value hvalue)) (entriesRefreshed_alike hl m entries hs)

/-- What is found under public names stays alike. -/
theorem membersRefreshed_alike (hl : l ≠ .identities) (m : Memory) :
    (members : List (String × Member)) → {members' : List (String × Member)} →
    (∀ name, isPrivate name = false →
      MemberAlike l (members.lookup name) (members'.lookup name)) →
    ∀ name, isPrivate name = false → MemberAlike l ((membersRefreshed m members).lookup name)
      ((membersRefreshed m members').lookup name) := by
  intro members members' h name hname
  rw [lookup_membersRefreshed m members']
  exact lookupRefreshed_alike hl m members name (h name hname)

theorem lookupRefreshed_alike (hl : l ≠ .identities) (m : Memory) :
    (members : List (String × Member)) → {found : Option Member} → (name : String) →
    MemberAlike l (members.lookup name) found →
    MemberAlike l ((membersRefreshed m members).lookup name) (found.map (memberRefreshed m))
  | [], _, _, .same _ => .same none
  | (key, member) :: members, found, name, h => by
    rw [membersRefreshed, List.lookup_cons]
    rw [List.lookup_cons] at h
    split at h
    · exact memberRefreshed_alike hl m member h
    · exact lookupRefreshed_alike hl m members name h

theorem memberRefreshed_alike (hl : l ≠ .identities) (m : Memory) : (member : Member) →
    {found : Option Member} → MemberAlike l (some member) found →
    MemberAlike l (some (memberRefreshed m member)) (found.map (memberRefreshed m))
  | .value v, _, h => by
    cases h with
    | same => exact .same _
    | value h => exact .value (Alike.refreshed hl m v h)
  | .failingProperty _, _, h | .failingMethod _, _, h => by
    cases h
    exact .same _

end

/-- Values that are alike come from the same look-up, unless identities may differ. -/
theorem Alike.origin_eq (hl : l ≠ .identities) {v w : Value} (h : Alike l v w) :
    v.origin = w.origin := by
  cases h with
  | buffer h => exact absurd h hl
  | _ => rfl

/-- What a look-up changes is the same for alike values. -/
theorem Alike.lookedUp_eq (hl : l ≠ .identities) {v w : Value} (h : Alike l v w) (m : Memory)
    (name : String) : m.lookedUp v name = m.lookedUp w name := by
  cases h with
  | buffer h => exact absurd h hl
  | _ => rfl

/-- They stay alike as buffers change. -/
theorem Alike.asOf (hl : l ≠ .identities) {v w : Value} (h : Alike l v w) (m : Memory) :
    Alike l (v.asOf m) (w.asOf m) := by
  unfold Value.asOf
  split
  · exact h
  · exact Alike.refreshed hl m v h

end Value

end Mustache
