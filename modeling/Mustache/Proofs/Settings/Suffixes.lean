import Mathlib.Data.List.DropRight
import Mustache.Proofs.Settings.Entries

/-!
# Suffixes

The suffixes of template files are the items of a list, or they stand between commas in a text.
Either way an item is trimmed, left out if it is blank, and given a point in front unless it has
one. What comes out is in a normal form: it is read as itself, and all spellings of the same items
come to it.

Both ways of reading go item by item, which makes them laws about items behind items. What is left
to say about a single item is about trimming.
-/

namespace Mustache

/-! ## Trimming -/

namespace Text

variable {s : List Char} {c : Char}

/-- A trimmed text does not begin with a blank. -/
theorem isBlank_of_head?_trim (h : (trim s).head? = some c) : isBlank c = false := by
  have hprefix : trim s <+: trimStart s := List.rdropWhile_prefix isBlank (trimStart s)
  have hstart : (trimStart s).head? = some c := by
    obtain ⟨rest, hrest⟩ := hprefix
    rw [← hrest, List.head?_append, h]
    rfl
  have hnot := List.head?_dropWhile_not isBlank s
  have hdrop : (List.dropWhile isBlank s).head? = some c := hstart
  rw [hdrop] at hnot
  exact hnot

/-- A trimmed text does not end in a blank. -/
theorem isBlank_of_getLast?_trim (h : (trim s).getLast? = some c) : isBlank c = false := by
  have hnot := List.head?_dropWhile_not isBlank (trimStart s).reverse
  have hdrop : (List.dropWhile isBlank (trimStart s).reverse).head? = some c := by
    rw [← List.getLast?_reverse]
    exact h
  rw [hdrop] at hnot
  exact hnot

/-- A text that neither begins nor ends with a blank is left as it is. -/
theorem trim_eq_self (hfirst : ∀ c, s.head? = some c → isBlank c = false)
    (hlast : ∀ c, s.getLast? = some c → isBlank c = false) : trim s = s := by
  have hstart : trimStart s = s := by
    cases s with
    | nil => rfl
    | cons c rest => exact List.dropWhile_cons_of_neg (by rw [hfirst c rfl]; decide)
  have hend : s.rdropWhile isBlank = s := by
    rw [List.rdropWhile_eq_self_iff]
    intro hne
    rw [hlast _ (List.getLast?_eq_some_getLast hne)]
    decide
  rw [trim, hstart]
  exact hend

/-- Of blanks nothing is left. -/
theorem trim_of_blank (h : ∀ c ∈ s, isBlank c = true) : trim s = [] := by
  have hstart : trimStart s = [] := List.dropWhile_eq_nil_iff.2 h
  rw [trim, hstart]
  rfl

end Text

namespace Settings

/-! ## The normal form of a suffix -/

/-- Suffixes in normal form: a point in front, and nothing to trim. -/
def IsNormal (suffix : String) : Prop :=
  suffix.toList.head? = some '.' ∧ Text.trimmed suffix = suffix

theorem IsNormal.ne_empty {suffix : String} (h : IsNormal suffix) : suffix ≠ "" := by
  rintro rfl
  exact absurd h.1 (by decide)

/-- A point in front of a trimmed name puts it into normal form. -/
theorem isNormal_withPoint (name : String) : IsNormal (withPoint (Text.trimmed name)) := by
  have htrim : (Text.trimmed name).toList = Text.trim name.toList := String.toList_ofList
  have hfirst (c : Char) (hc : (Text.trim name.toList).head? = some c) : Text.isBlank c = false :=
    Text.isBlank_of_head?_trim hc
  have hlast (c : Char) (hc : (Text.trim name.toList).getLast? = some c) :
      Text.isBlank c = false :=
    Text.isBlank_of_getLast?_trim hc
  have hpoint : Text.isBlank '.' = false := by decide
  unfold withPoint
  split
  -- a point that is there already is not put in front again
  · next hhead =>
    refine ⟨hhead, ?_⟩
    rw [Text.trimmed, htrim, Text.trim_eq_self hfirst hlast]
    rfl
  · -- the point is not blank, and behind it comes what was trimmed before
    have hchars : ("." ++ Text.trimmed name).toList = '.' :: Text.trim name.toList := by
      rw [String.toList_append, htrim]
      rfl
    refine ⟨by rw [hchars]; rfl, ?_⟩
    have hself : Text.trim ('.' :: Text.trim name.toList) = '.' :: Text.trim name.toList := by
      apply Text.trim_eq_self
      · rintro c ⟨⟩
        exact hpoint
      · intro c hc
        rw [List.getLast?_cons] at hc
        cases hrest : (Text.trim name.toList).getLast? with
        | none =>
          rw [hrest] at hc
          obtain rfl : '.' = c := Option.some.inj hc
          exact hpoint
        | some d =>
          rw [hrest] at hc
          obtain rfl : d = c := Option.some.inj hc
          exact hlast d hrest
    rw [Text.trimmed, hchars, hself, ← hchars, String.ofList_toList]

/-- Cleaning leaves suffixes in normal form only. -/
theorem isNormal_of_mem_cleanSuffixes {names : List String} {suffix : String}
    (h : suffix ∈ cleanSuffixes names) : IsNormal suffix := by
  obtain ⟨item, hitem, rfl⟩ := List.mem_map.1 h
  obtain ⟨name, -, rfl⟩ := List.mem_map.1 (List.mem_filter.1 hitem).1
  exact isNormal_withPoint name

/-- Suffixes in normal form are read as they are. -/
theorem cleanSuffixes_of_isNormal {names : List String} (h : ∀ name ∈ names, IsNormal name) :
    cleanSuffixes names = names := by
  induction names with
  | nil => rfl
  | cons name rest ih =>
    obtain ⟨hname, hrest⟩ := List.forall_mem_cons.1 h
    have hkept : (decide (name ≠ "")) = true := decide_eq_true hname.ne_empty
    have hpoint : withPoint name = name := if_pos hname.1
    have hcons : cleanSuffixes (name :: rest) = name :: cleanSuffixes rest := by
      simp only [cleanSuffixes, List.map_cons, hname.2, List.filter_cons, hkept, if_true, hpoint]
    rw [hcons, ih hrest]

/-! ## Items behind items -/

theorem cleanSuffixes_append (names more : List String) :
    cleanSuffixes (names ++ more) = cleanSuffixes names ++ cleanSuffixes more := by
  simp only [cleanSuffixes, List.map_append, List.filter_append]

/-- An item of blanks leaves no suffix. -/
theorem cleanSuffixes_of_blank {name : String} (h : ∀ c ∈ name.toList, Text.isBlank c = true) :
    cleanSuffixes [name] = [] := by
  have htrim : Text.trimmed name = "" := by
    rw [Text.trimmed, Text.trim_of_blank h]
  simp [cleanSuffixes, htrim]

theorem splitCommas_ne_nil (s : List Char) : splitCommas s ≠ [] := by
  unfold splitCommas
  split
  · exact List.cons_ne_nil _ _
  · exact List.cons_ne_nil _ _
  · split <;> exact List.cons_ne_nil _ _

/-- The items of a text behind a comma come behind those of the text before it. -/
theorem splitCommas_append (s t : List Char) :
    splitCommas (s ++ ',' :: t) = splitCommas s ++ splitCommas t := by
  fun_induction splitCommas s with
  | case1 => rfl
  | case2 s ih =>
    rw [List.cons_append, splitCommas, ih]
    rfl
  | case3 c s hc hnil ih => exact absurd hnil (splitCommas_ne_nil s)
  | case4 c s hc first rest hsplit ih =>
    rw [hsplit] at ih
    rw [List.cons_append, splitCommas, ih]
    · rfl
    · exact hc

/-- Without commas there is one part. -/
theorem splitCommas_of_not_mem {s : List Char} (h : ',' ∉ s) : splitCommas s = [s] := by
  induction s with
  | nil => rfl
  | cons c s ih =>
    obtain ⟨hc, hs⟩ := not_or.1 (mt List.mem_cons.2 h)
    rw [splitCommas, ih hs]
    intro heq
    exact hc heq.symm

/-- Suffixes before and behind a comma are read apart. -/
theorem suffixesOfText_comma (s t : String) :
    suffixesOfText (s ++ "," ++ t) = suffixesOfText s ++ suffixesOfText t := by
  have hchars : (s ++ "," ++ t).toList = s.toList ++ ',' :: t.toList := by
    rw [String.toList_append, String.toList_append, List.append_assoc]
    rfl
  rw [suffixesOfText, hchars, splitCommas_append, List.map_append, cleanSuffixes_append]
  rfl

theorem suffixesOfText_of_not_mem {s : String} (h : ',' ∉ s.toList) :
    suffixesOfText s = cleanSuffixes [s] := by
  rw [suffixesOfText, splitCommas_of_not_mem h, List.map_singleton, String.ofList_toList]

/-- Blanks between commas leave no suffix. -/
theorem suffixesOfText_of_blank {s : String} (h : ∀ c ∈ s.toList, Text.isBlank c = true) :
    suffixesOfText s = [] := by
  have hcomma : ',' ∉ s.toList := by
    intro hmem
    exact absurd (h ',' hmem) (by decide)
  rw [suffixesOfText_of_not_mem hcomma, cleanSuffixes_of_blank h]

/-- Names joined by commas give the suffixes that the names give. -/
theorem suffixesOfText_intercalate {names : List String} (h : ∀ name ∈ names, ',' ∉ name.toList) :
    suffixesOfText (String.intercalate "," names) = cleanSuffixes names := by
  induction names with
  | nil => rfl
  | cons name rest ih =>
    obtain ⟨hname, hrest⟩ := List.forall_mem_cons.1 h
    cases rest with
    | nil =>
      rw [String.intercalate_singleton]
      exact suffixesOfText_of_not_mem hname
    | cons next later =>
      rw [String.intercalate_cons_cons, suffixesOfText_comma, ih hrest,
        suffixesOfText_of_not_mem hname, ← cleanSuffixes_append]
      rfl

/-! ## Lists of values -/

/-- Texts in a list are cleaned as the names they are. -/
theorem suffixesOfItems_texts (names : List String) :
    suffixesOfItems (names.map .text) = .ok (cleanSuffixes names) := by
  have hnames : (names.map Value.text).mapM Value.text? = .ok names := by
    induction names with
    | nil => rfl
    | cons name rest ih =>
      rw [List.map_cons, List.mapM_cons, ih]
      rfl
  rw [suffixesOfItems, hnames]

/-- An item whose text is blank changes nothing, also where another item has no text. -/
theorem suffixesOfItems_insert {item : Value} {blank : String} (htext : item.text? = .ok blank)
    (hblank : ∀ c ∈ blank.toList, Text.isBlank c = true) (before after : List Value) :
    suffixesOfItems (before ++ item :: after) = suffixesOfItems (before ++ after) := by
  unfold suffixesOfItems
  rw [List.mapM_append, List.mapM_append, List.mapM_cons, htext]
  cases before.mapM Value.text? with
  | error failure => rfl
  | ok names =>
    cases after.mapM Value.text? with
    | error failure => rfl
    | ok more =>
      have hclean : cleanSuffixes (names ++ blank :: more) = cleanSuffixes (names ++ more) := by
        rw [← List.singleton_append, cleanSuffixes_append, cleanSuffixes_append,
          cleanSuffixes_of_blank hblank, List.nil_append, ← cleanSuffixes_append]
      exact congrArg Except.ok hclean

/-- What a setting of suffixes is read as comes from names. -/
theorem exists_names_of_suffixesOf {path : Option String} {v : Value} {suffixes : List String}
    (h : suffixesOf path v = .ok suffixes) : ∃ names, cleanSuffixes names = suffixes := by
  unfold suffixesOf at h
  split at h
  · exact ⟨_, Except.ok.inj h⟩
  · split at h
    · cases h
    · exact ⟨_, Except.ok.inj h⟩
  · split at h
    · cases h
    · exact ⟨_, Except.ok.inj h⟩
  · cases h

/-- Suffixes that are read from a setting are in normal form, in which they are read as they are. A
list of names without commas is read as the names joined by commas are, in a setting or in the
environment. Blank items change nothing, wherever they stand in a list or between commas. -/
theorem suffixesOf_normalForm (path : Option String) :
    (∀ v suffixes, suffixesOf path v = .ok suffixes →
      (∀ suffix ∈ suffixes, IsNormal suffix) ∧
        suffixesOf path (.tuple (suffixes.map .text)) = .ok suffixes) ∧
    (∀ names : List String, (∀ name ∈ names, ',' ∉ name.toList) →
      suffixesOf path (.list (names.map .text)) =
          suffixesOf path (.text (String.intercalate "," names)) ∧
        ∀ (s : Settings) (env : Environment),
          env.lookup "STACHE_SUFFIXES" = some (String.intercalate "," names) →
          suffixesOf path (.list (names.map .text)) = .ok (s.overridden env).suffixes) ∧
    ∀ blank : String, (∀ c ∈ blank.toList, Text.isBlank c = true) →
      (∀ before item after, item.text? = .ok blank →
        suffixesOf path (.list (before ++ item :: after)) =
            suffixesOf path (.list (before ++ after)) ∧
          suffixesOf path (.tuple (before ++ item :: after)) =
            suffixesOf path (.tuple (before ++ after))) ∧
      ∀ s t : String,
        suffixesOf path (.text (blank ++ "," ++ t)) = suffixesOf path (.text t) ∧
        suffixesOf path (.text (s ++ "," ++ blank)) = suffixesOf path (.text s) ∧
        suffixesOf path (.text (s ++ "," ++ blank ++ "," ++ t)) =
          suffixesOf path (.text (s ++ "," ++ t)) := by
  refine ⟨fun v suffixes h => ?_, fun names hnames => ?_, fun blank hblank => ⟨?_, ?_⟩⟩
  -- what is accepted is in normal form, and cleaning leaves that as it is
  · obtain ⟨names, rfl⟩ := exists_names_of_suffixesOf h
    have hnormal (suffix : String) (hmem : suffix ∈ cleanSuffixes names) : IsNormal suffix :=
      isNormal_of_mem_cleanSuffixes hmem
    refine ⟨hnormal, ?_⟩
    show suffixesOfItems ((cleanSuffixes names).map .text) = _
    rw [suffixesOfItems_texts, cleanSuffixes_of_isNormal hnormal]
  -- a list and its names between commas are cleaned alike, wherever they are read from
  · have hlist : suffixesOf path (.list (names.map .text)) = .ok (cleanSuffixes names) :=
      suffixesOfItems_texts names
    have htext := suffixesOfText_intercalate hnames
    refine ⟨?_, fun s env henv => ?_⟩
    · show _ = Except.ok (suffixesOfText (String.intercalate "," names))
      rw [hlist, htext]
    · have hread : (s.overridden env).suffixes = cleanSuffixes names := by
        simp only [overridden, henv, Option.map_some, Option.getD_some, htext]
      rw [hlist, hread]
  -- blank items go
  · intro before item after htext
    have hinsert := suffixesOfItems_insert htext hblank before after
    exact ⟨hinsert, hinsert⟩
  · intro s t
    have hnone : suffixesOfText blank = [] := suffixesOfText_of_blank hblank
    simp only [suffixesOf, suffixesOfText_comma, hnone, List.nil_append, List.append_nil,
      and_self]

/-- One list of suffixes in a settings file, in the environment, and as it is read from either. -/
theorem suffixesOf_normalForm_spellings :
    let names := ["tpl ", ".mustache", ".a b"]
    let read := [".tpl", ".mustache", ".a b"]
    (∀ name ∈ names, ',' ∉ name.toList) ∧
      suffixesOf none (.list (names.map .text)) = .ok read ∧
      (∀ suffix ∈ read, IsNormal suffix) ∧
      suffixesOf none (.tuple (read.map .text)) = .ok read ∧
      suffixesOf none (.text (String.intercalate "," names)) = .ok read ∧
      suffixesOf none (.text " ,tpl ,.mustache,.a b") = .ok read := by
  intro names read
  obtain ⟨hnormal, hjoined, hblank⟩ := suffixesOf_normalForm none
  have hcomma : ∀ name ∈ names, ',' ∉ name.toList := by decide
  have hread : suffixesOf none (.list (names.map .text)) = .ok read := by decide
  have htext := (hjoined names hcomma).1.symm.trans hread
  have hspace : ∀ c ∈ " ".toList, Text.isBlank c = true := by
    intro c hc
    obtain rfl : c = ' ' := by simpa using hc
    decide
  have hinserted := ((hblank " " hspace).2 "" "tpl ,.mustache,.a b").1
  obtain ⟨hpoints, hself⟩ := hnormal (.list (names.map .text)) read hread
  exact ⟨hcomma, hread, hpoints, hself, htext, hinserted.trans htext⟩

end Settings

end Mustache
