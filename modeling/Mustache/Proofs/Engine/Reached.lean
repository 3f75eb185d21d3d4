import Mustache.Proofs.Engine.Missing
import Mustache.Proofs.Render.Asked
import Mustache.Proofs.Source.Names

/-!
# Renderings depend on the texts that they reach

What an engine gives for a name is made from the text that its source loads for that name and from
nothing else. So if a source loads the same texts on two disks for the names that a rendering comes
to on one of them, the renderings on both are equal in all that they do: the result, the output,
what is told, and the cache that is left. The other files of the disks may differ.
-/

namespace Mustache

/-! ## Loading -/

namespace Caching

variable {loader loader' : Loader} (hcalls : loader.calls = []) (hcalls' : loader'.calls = [])
include hcalls hcalls'

/-- Two loaders that load a key alike load it alike with any callbacks, for it has no script. -/
theorem load_congr {key : String} (h : loader.load key = loader'.load key)
    (call call' : CacheCall → Caching Unit) : load loader call key = load loader' call' key := by
  unfold load
  rw [hcalls, hcalls', h]
  rfl

/-- They build it alike as well. -/
theorem build_congr {slot : Slot} (h : loader.load slot.key = loader'.load slot.key)
    (call call' : CacheCall → Caching Unit) :
    build loader call slot = build loader' call' slot := by
  unfold build
  rw [load_congr hcalls hcalls' h call call']

theorem buildMarked_congr {slot : Slot} (h : loader.load slot.key = loader'.load slot.key)
    (call call' : CacheCall → Caching Unit) :
    buildMarked loader call slot = buildMarked loader' call' slot := by
  unfold buildMarked
  rw [build_congr hcalls hcalls' h call call']

end Caching

/-- What a cache is asked for depends on the text of that name alone. -/
theorem Cache.get_congr {loader loader' : Loader} (hcalls : loader.calls = [])
    (hcalls' : loader'.calls = []) {slot : Slot} (h : loader.load slot.key = loader'.load slot.key)
    (c : Cache) : c.get loader slot = c.get loader' slot := by
  unfold Cache.get Caching.get
  rw [hcalls, hcalls']
  cases c.find? slot with
  | some kept => rfl
  | none =>
    dsimp only
    split
    · rfl
    · exact congrFun (Caching.buildMarked_congr hcalls hcalls' h _ _) c

namespace Engine

variable {source : Source} {strict : Bool} {d d' : Disk} {name : String}

/-- Looking for a partial depends on the disk only by what is loaded under its name. -/
theorem finder_congr (h : source.load d' name = source.load d name) :
    finder source strict d' name = finder source strict d name := by
  funext c
  have hget : c.get (source.loader d') ⟨.named, name⟩ = c.get (source.loader d) ⟨.named, name⟩ :=
    Cache.get_congr rfl rfl h c
  unfold finder
  rw [hget]

end Engine

/-! ## Rendering -/

/-- The key of a template and all names that it includes are among some keys. -/
structure Template.KnownTo (keys : List String) (t : Template) : Prop where
  key : t.key ∈ keys
  inclusion : ∀ name ∈ Node.allInclusions t.nodes, name ≠ "" ∧ name ∈ keys

/-- A compiled text is known to keys that hold its own and all names in it. -/
theorem Template.KnownTo.of_compile {keys : List String} {text name : String} {t : Template}
    (h : Template.compile text name = .ok t) (hkey : t.key ∈ keys)
    (hnames : ∀ inner ∈ Template.namesIncluded text, inner ∈ keys) : t.KnownTo keys := by
  refine ⟨hkey, fun inner hinner => ?_⟩
  rw [nodes_of_compile h] at hinner
  exact ⟨fun heq => Template.empty_not_mem_namesIncluded text (heq ▸ hinner), hnames inner hinner⟩

/-- A rendering is the same on two disks if the source loads the same there for all names that the
rendering comes to. -/
theorem Engine.render_eq_of_loads {source : Source} {strict : Bool} {d d' : Disk} {e : Engine}
    (he : e.KeepsTo d source strict) {text key : String} {t : Template}
    (ht : Template.compile text key = .ok t) (data : Value) (sink : Sink)
    (hsame : ∀ name ∈ e.reached d' t data sink, source.load d' name = source.load d name) :
    e.render d' t data sink = e.render d t data sink := by
  obtain ⟨source, strict, c⟩ := e
  obtain ⟨rfl, rfl, hc⟩ := he
  obtain ⟨keys, hle, hle', hkeys⟩ := exists_shared (t.keysFrom source d) (t.keysFrom source d')
  have hknown (u : Template) (name : String) (l : Cache) (v : Template) (hu : u.KnownTo keys)
      (hname : name ∈ Node.allInclusions u.nodes) (hload : source.load d' name = source.load d name)
      (hl : l.Faithful (source.loader d))
      (hv : (finder source strict d name l).template = .ok (some v)) : v.KnownTo keys := by
    obtain ⟨loaded, hloaded, hcompile⟩ := hl.exists_load_of_finder hv
    obtain ⟨hne, hmem⟩ := hu.inclusion name hname
    have hkey : v.key ∈ keys := (Template.key_of_compile hne hcompile).symm ▸ hmem
    refine .of_compile hcompile hkey fun next hnext => hkeys next ?_ ?_
    -- the names in a text that is loaded from both disks are among those on each
    · exact List.mem_cons_of_mem _ (List.mem_append_right _
        (Source.namesIncluded_subset_of_load hloaded hnext))
    · exact List.mem_cons_of_mem _ (List.mem_append_right _
        (Source.namesIncluded_subset_of_load (hload.trans hloaded) hnext))
  have hroot : t.KnownTo keys := by
    refine .of_compile ht (hkeys _ List.mem_cons_self List.mem_cons_self) fun name hname => ?_
    rw [← nodes_of_compile ht] at hname
    exact hkeys _ (List.mem_cons_of_mem _ (List.mem_append_left _ hname))
      (List.mem_cons_of_mem _ (List.mem_append_left _ hname))
  have hkind (name : String) (l : Cache) (hl : l.Faithful (source.loader d)) :
      (finder source strict d name l).library.Faithful (source.loader d) := by
    rw [KeepsTo.library_finder]
    exact (hl.get rfl ⟨.named, name⟩).2.2
  have hfinder (name : String) (h : source.load d' name = source.load d name) :
      finder source strict d' name = finder source strict d name := finder_congr h
  have hrender := render_eq_of_asked hfinder hkind (fun u hu => hu.key) hknown
    (Nat.le_trans hle' (t.length_keysFrom_le source strict c d'))
    (Nat.le_trans hle (t.length_keysFrom_le source strict c d)) hroot data sink hc hsame
  rw [render_eq_run, render_eq_run]
  dsimp only
  rw [hrender]

end Mustache
