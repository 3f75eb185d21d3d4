import Mustache.Cache
import Mustache.Proofs.Lookup

/-!
# Asking a cache

What comes of asking a cache for a slot when loading a text makes no calls of its own. A template
that is there is given back and nothing changes. Otherwise the text is loaded and compiled: if both
go well the template is kept under a new serial number, and if not the cache keeps what it had. In
either case the marks of the compilation are gone and no warning has been given.
-/

namespace Mustache

namespace Slot

/-- The name under which the text of a slot is compiled. -/
def name (s : Slot) : String :=
  match s.space with
  | .inline => ""
  | .named => s.key

end Slot

namespace Loader

/-- The text of a slot. -/
def text (loader : Loader) (slot : Slot) : Except Fault String :=
  match slot.space with
  | .inline => .ok slot.key
  | .named => (loader.load slot.key).map Loaded.text

/-- The template of a slot, compiled anew. -/
def made (loader : Loader) (slot : Slot) : Except Fault Template := do
  let text ← loader.text slot
  (Template.compile text slot.name).mapError .malformed

end Loader

namespace Caching

variable {α : Type}

/-- One use of the cache after another: the second sees the cache that the first leaves. -/
theorem bind_apply {β : Type} (x : Caching α) (f : α → Caching β) (c : Cache) :
    (x >>= f) c =
      match x c with
      | (.error fault, c) => (.error fault, c)
      | (.ok a, c) => f a c := by
  have hbind : (x >>= f) c = ExceptT.bindCont f (x c).1 (x c).2 := rfl
  rw [hbind]
  rcases x c with ⟨fault | a, c'⟩
  · rfl
  · rfl

/-- A use of the cache whose result does not depend on the cache, and of which only notices remain,
none of them a warning. -/
def Tells (x : Caching α) (result : Except Fault α) : Prop :=
  ∀ c, ∃ told, Notice.warnings told = [] ∧ x c = (result, { c with notices := c.notices ++ told })

theorem tells_pure (a : α) : Tells (pure a) (.ok a) := by
  intro c
  refine ⟨[], rfl, ?_⟩
  rw [List.append_nil]
  rfl

theorem tells_throw (fault : Fault) : Tells (throw fault : Caching α) (.error fault) := by
  intro c
  refine ⟨[], rfl, ?_⟩
  rw [List.append_nil]
  rfl

theorem tells_tell {notice : Notice} (h : notice.level? ≠ some .warning) :
    Tells (tell notice) (.ok ()) := fun c =>
  ⟨[notice], by simp [Notice.warnings, h], rfl⟩

/-- What goes on from an answer tells what the rest tells. -/
theorem Tells.andThen {β : Type} {x : Caching α} {f : α → Caching β} {a : α}
    {result : Except Fault β} (hx : Tells x (.ok a)) (hf : Tells (f a) result) :
    Tells (x >>= f) result := by
  intro c
  obtain ⟨told, htold, hxc⟩ := hx c
  obtain ⟨more, hmore, hfc⟩ := hf { c with notices := c.notices ++ told }
  refine ⟨told ++ more, by simp_all [Notice.warnings], ?_⟩
  rw [bind_apply, hxc, ← List.append_assoc]
  exact hfc

/-- Two computations in a row tell what their results make one after the other. -/
theorem Tells.bind {β : Type} {x : Caching α} {f : α → Caching β} {result : Except Fault α}
    {next : α → Except Fault β} (hx : Tells x result) (hf : ∀ a, Tells (f a) (next a)) :
    Tells (x >>= f) (result >>= next) := by
  cases result with
  | ok a => exact hx.andThen (hf a)
  | error fault =>
    intro c
    obtain ⟨told, htold, hxc⟩ := hx c
    refine ⟨told, htold, ?_⟩
    rw [bind_apply, hxc]
    rfl

/-- Compiling tells the result of compiling the text alone. -/
theorem tells_compile (text name : String) :
    Tells (compile text name) ((Template.compile text name).mapError .malformed) := by
  unfold compile Template.compile Template.parse
  cases Token.scan text.toList with
  | error e => exact tells_throw _
  | ok tokens =>
    refine (tells_tell (by simp [Notice.level?])).andThen ?_
    dsimp only
    cases Node.ofTokens tokens with
    | error e => exact tells_throw _
    | ok nodes => exact (tells_tell (by simp [Notice.level?])).andThen (tells_pure _)

section
variable {loader : Loader} (hcalls : loader.calls = [])
include hcalls

/-- Loading from a source that asks for no other key tells the text of the source. -/
theorem tells_load (call : CacheCall → Caching Unit) (key : String) :
    Tells (load loader call key) ((loader.load key).map Loaded.text) := by
  unfold load
  rw [hcalls]
  refine (tells_tell (by simp [Notice.level?])).andThen ?_
  refine (tells_pure ()).andThen ?_
  cases loader.load key with
  | error fault => exact tells_throw fault
  | ok loaded =>
    obtain ⟨text, path⟩ := loaded
    cases path with
    | none => exact tells_pure text
    | some path => exact (tells_tell (by simp [Notice.level?])).andThen (tells_pure text)

theorem tells_build (call : CacheCall → Caching Unit) (slot : Slot) :
    Tells (build loader call slot) (loader.made slot) := by
  obtain ⟨space, key⟩ := slot
  cases space with
  | inline => exact tells_compile key ""
  | named => exact (tells_load hcalls call key).bind fun text => tells_compile text key

end

end Caching

namespace Cache

variable {c : Cache} {loader : Loader} {slot : Slot}

/-- The cache with a new template for a slot. -/
def keep (c : Cache) (slot : Slot) (t : Template) : Cache :=
  { c with entries := (slot, ⟨c.next, t⟩) :: c.entries, next := c.next + 1 }

/-- A kept template is found for its own slot, and every other slot finds what it found. -/
theorem find?_keep (c : Cache) (slot other : Slot) (t : Template) :
    (c.keep slot t).find? other = if other = slot then some ⟨c.next, t⟩ else c.find? other := by
  exact lookup_cons_eq_ite slot ⟨c.next, t⟩ c.entries other

theorem leave_enter (h : slot ∉ c.compiling) : (c.enter slot).leave slot = c := by
  simp [enter, leave, List.erase_append_right _ h]

theorem install_of_find?_none (h : c.find? slot = none) (t : Template) :
    c.install slot t = (⟨c.next, t⟩, c.keep slot t) := by
  simp [install, isCached, h, keep]

theorem install_of_find? {kept : Kept} (h : c.find? slot = some kept) (t : Template) :
    c.install slot t = (kept, { c with next := c.next + 1 }) := by
  simp [install, isCached, h]

/-- What is given back for a new template is what the slot has from then on. -/
theorem find?_install_self (c : Cache) (slot : Slot) (t : Template) :
    (c.install slot t).2.find? slot = some (c.install slot t).1 := by
  cases hfind : c.find? slot with
  | none =>
    rw [install_of_find?_none hfind, find?_keep, if_pos rfl]
  | some kept =>
    rw [install_of_find? hfind]
    exact hfind

/-- A new template replaces none. -/
theorem find?_install_of_find? {other : Slot} {kept : Kept} (slot : Slot) (t : Template)
    (h : c.find? other = some kept) : (c.install slot t).2.find? other = some kept := by
  cases hfind : c.find? slot with
  | none =>
    have hne : other ≠ slot := by
      rintro rfl
      rw [hfind] at h
      cases h
    rw [install_of_find?_none hfind, find?_keep, if_neg hne]
    exact h
  | some found =>
    rw [install_of_find? hfind]
    exact h

/-- What is kept is given without asking the source. -/
theorem get_of_find? {kept : Kept} (h : c.find? slot = some kept) :
    c.get loader slot = (.ok kept, c) := by
  simp only [get, Caching.get, h]

/-- What comes of asking for a slot that has no template and is not being compiled. -/
theorem get_of_find?_none (hcalls : loader.calls = []) (hfind : c.find? slot = none)
    (hcompiling : slot ∉ c.compiling) :
    ∃ told, Notice.warnings told = [] ∧
      c.get loader slot =
        match loader.made slot with
        | .error fault => (.error fault, { c with notices := c.notices ++ told })
        | .ok t => (.ok ⟨c.next, t⟩, { c.keep slot t with notices := c.notices ++ told }) := by
  rw [get, Caching.get]
  simp only [hfind, if_neg hcompiling]
  unfold Caching.buildMarked
  obtain ⟨told, htold, hbuild⟩ := Caching.tells_build hcalls _ slot (c.enter slot)
  rw [hbuild]
  -- what was told while the slot was marked stays when the mark goes
  have hleave : Cache.leave { c.enter slot with notices := (c.enter slot).notices ++ told } slot
      = { c with notices := c.notices ++ told } := by
    have henter : slot ∉ ({ c with notices := c.notices ++ told } : Cache).compiling := hcompiling
    exact leave_enter henter
  cases hmade : loader.made slot with
  | error fault => exact ⟨told, htold, by simp only [hleave]⟩
  | ok t =>
    refine ⟨told ++ [.compiled slot.space t.key t.nodes.length], ?_, ?_⟩
    · simp_all [Notice.warnings, Notice.level?]
    · have hinstall : ({ c with notices := c.notices ++ told } : Cache).install slot t
          = (⟨c.next, t⟩, { c.keep slot t with notices := c.notices ++ told }) := by
        have hmissing : ({ c with notices := c.notices ++ told } : Cache).find? slot = none := hfind
        exact install_of_find?_none hmissing t
      simp only [hleave, hinstall, tell, List.append_assoc]

/-- Asking keeps every template that is there. -/
theorem find?_get_of_find? (hcalls : loader.calls = []) (hcompiling : slot ∉ c.compiling)
    {other : Slot} {kept : Kept} (h : c.find? other = some kept) :
    (c.get loader slot).2.find? other = some kept := by
  cases hfind : c.find? slot with
  | some _ => rw [get_of_find? hfind]; exact h
  | none =>
    obtain ⟨told, -, hget⟩ := get_of_find?_none hcalls hfind hcompiling
    rw [hget]
    cases loader.made slot with
    | error fault => exact h
    | ok t =>
      have hkeep := find?_install_of_find? slot t h
      rw [install_of_find?_none hfind] at hkeep
      exact hkeep

/-- What asking answers is there afterwards. -/
theorem find?_get_self (hcalls : loader.calls = []) (hcompiling : slot ∉ c.compiling) {kept : Kept}
    (h : (c.get loader slot).1 = .ok kept) : (c.get loader slot).2.find? slot = some kept := by
  cases hfind : c.find? slot with
  | some found =>
    rw [get_of_find? hfind] at h ⊢
    rw [← Except.ok.inj h]
    exact hfind
  | none =>
    obtain ⟨told, -, hget⟩ := get_of_find?_none hcalls hfind hcompiling
    rw [hget] at h ⊢
    cases hmade : loader.made slot with
    | error fault => rw [hmade] at h; cases h
    | ok t =>
      rw [hmade] at h
      rw [← Except.ok.inj h]
      exact (find?_keep c slot slot t).trans (if_pos rfl)

end Cache

end Mustache
