import Mustache.Render.Walk

/-!
# Chains of templates

The keys of the templates that are being walked are all different, and each is the key of a template
that can be found. So a chain that can still be made longer is shorter than the list of all keys,
which is what bounds the depth of a walk.
-/

namespace Mustache

/-- Different keys, all among some given ones. -/
structure Chain (keys active : List String) : Prop where
  nodup : active.Nodup
  known : active ⊆ keys

namespace Chain

variable {keys active : List String} {key : String}

theorem nil (keys : List String) : Chain keys [] := ⟨List.nodup_nil, List.nil_subset keys⟩

/-- A chain is no longer than there are keys. -/
theorem length_le (h : Chain keys active) : active.length ≤ keys.length :=
  h.nodup.length_le_of_subset h.known

/-- A chain is made longer by a key that it does not have. -/
theorem enter (h : Chain keys active) (hkey : key ∈ keys) (hfresh : key ∉ active) :
    Chain keys (active ++ [key]) := by
  refine ⟨List.nodup_append.2 ⟨h.nodup, by simp, ?_⟩, ?_⟩
  · rintro a ha b hb rfl
    exact hfresh (List.mem_singleton.1 hb ▸ ha)
  · exact List.append_subset.2 ⟨h.known, by simpa using hkey⟩

theorem leave (h : Chain keys active) : Chain keys active.dropLast :=
  ⟨h.nodup.sublist (List.dropLast_sublist active),
    fun _ hkey => h.known (List.dropLast_subset active hkey)⟩

/-- A chain that can be made longer is shorter than the list of keys. -/
theorem length_lt (h : Chain keys active) (hkey : key ∈ keys) (hfresh : key ∉ active) :
    active.length < keys.length := by
  have hle := (h.enter hkey hfresh).length_le
  rwa [List.length_append, List.length_singleton] at hle

/-- What is left of a depth behind one more key. -/
theorem depth_enter {depth : Nat} (hdepth : keys.length ≤ depth + 1 + active.length)
    (key : String) :
    keys.length ≤ depth + (active ++ [key]).length := by
  rw [List.length_append, List.length_singleton]
  omega

end Chain

/-- The keys of a template and of those that it may include. -/
def Template.keysWith (t : Template) (templates : List (String × Template)) : List String :=
  t.key :: templates.map fun entry => entry.2.key

/-- The keys of a template with some others are one more than the others. -/
theorem Template.length_keysWith (t : Template) (templates : List (String × Template)) :
    (t.keysWith templates).length = templates.length + 1 := by
  rw [keysWith, List.length_cons, List.length_map]

theorem Template.key_mem_keysWith {templates : List (String × Template)} {name : String}
    {found : Template} (h : templates.lookup name = some found) (t : Template) :
    found.key ∈ t.keysWith templates := by
  obtain ⟨before, after, rfl, -⟩ := List.lookup_eq_some_iff.1 h
  simp [keysWith]

end Mustache
