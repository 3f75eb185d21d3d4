import Mathlib.Data.List.Basic
import Mustache.Report

/-!
# Reports can be read back

What is printed of a report tells the report. The first character tells of which kind it is; a text
ends at the first quote that is not escaped; and what stands in brackets is followed by a comma or
by the end of a line, neither of which a number holds. So the end of a report shows wherever it
stands in another one, and no two reports are printed alike.
-/

namespace Mustache.Report

/-! ## What follows a report -/

/-- What may stand behind a report: nothing, a comma or the end of a line. -/
inductive Follows : List Char → Prop
  | nothing : Follows []
  | comma (rest : List Char) : Follows (',' :: rest)
  | line (rest : List Char) : Follows ('\n' :: rest)

/-- What is written of something tells what it is, whatever may follow a report. -/
def Told {α : Type} (w : α → String) (a : α) : Prop :=
  ∀ b t t', Follows t → Follows t' → (w a).toList ++ t = (w b).toList ++ t' → a = b ∧ t = t'

/-! ## Texts -/

/-- The first character of an escaped text, and what is behind it. -/
def readEscaped : List Char → Option (Char × List Char)
  | [] => none
  | '\\' :: 'n' :: rest => some ('\n', rest)
  | '\\' :: 'r' :: rest => some ('\r', rest)
  | '\\' :: 't' :: rest => some ('\t', rest)
  | '\\' :: 'b' :: rest => some (Char.ofNat 8, rest)
  | '\\' :: 'f' :: rest => some (Char.ofNat 12, rest)
  | '\\' :: 'u' :: a :: b :: c :: d :: rest =>
    some (Char.ofNat (Text.ofDigits 16 [a, b, c, d]), rest)
  | '\\' :: c :: rest => some (c, rest)
  | c :: rest => some (c, rest)

/-- A character is read back from what stands for it. -/
theorem readEscaped_escapedChar (c : Char) (rest : List Char) :
    readEscaped (escapedChar c ++ rest) = some (c, rest) := by
  have hcode {n : Nat} (h : c.toNat = n) : Char.ofNat n = c := h ▸ Char.ofNat_toNat c
  have hdigits : ∀ n < 32, Text.ofDigits 16 (Text.hexDigits 4 n) = n := by decide
  have hhex (n : Nat) : readEscaped ('\\' :: 'u' :: Text.hexDigits 4 n ++ rest) =
      some (Char.ofNat (Text.ofDigits 16 (Text.hexDigits 4 n)), rest) := rfl
  unfold escapedChar
  dsimp only
  split
  -- a quotation mark or a backslash stands behind a backslash
  · next h =>
    obtain rfl | rfl : c = '"' ∨ c = '\\' := by simpa using h
    · rfl
    · rfl
  next hmarked =>
  split
  · next h => rw [eq_of_beq h]; rfl
  split
  · next h => rw [eq_of_beq h]; rfl
  split
  · next h => rw [eq_of_beq h]; rfl
  split
  · next h => rw [← hcode h]; rfl
  split
  · next h => rw [← hcode h]; rfl
  split
  -- other control characters are given by their number
  · next h => rw [hhex, hdigits _ h, Char.ofNat_toNat]
  -- every other character stands for itself, and none of them is a backslash
  · have hslash : c ≠ '\\' := fun heq => hmarked (by rw [heq]; rfl)
    rw [List.singleton_append, readEscaped.eq_def]
    split
    all_goals simp_all

/-- What stands for a character does not start with a quote. -/
theorem head?_escapedChar (c : Char) : ∃ d rest, escapedChar c = d :: rest ∧ d ≠ '"' := by
  unfold escapedChar
  dsimp only
  split
  · exact ⟨'\\', [c], rfl, by decide⟩
  next hmarked =>
  have hquote : c ≠ '"' := fun heq => hmarked (by rw [heq]; rfl)
  split_ifs
  all_goals first | exact ⟨_, _, rfl, hquote⟩ | exact ⟨_, _, rfl, by decide⟩

/-- A quoted text ends at the first quotation mark that is not escaped, so text and rest can be told
from each other. -/
theorem escaped_told {s s' t t' : List Char}
    (h : s.flatMap escapedChar ++ '"' :: t = s'.flatMap escapedChar ++ '"' :: t') :
    s = s' ∧ t = t' := by
  induction s generalizing s' with
  | nil =>
    cases s' with
    | nil => exact ⟨rfl, List.tail_eq_of_cons_eq h⟩
    | cons c' s' =>
      obtain ⟨d, rest, hd, hquote⟩ := head?_escapedChar c'
      rw [List.flatMap_cons, hd] at h
      exact absurd (List.head_eq_of_cons_eq h).symm hquote
  | cons c s ih =>
    cases s' with
    | nil =>
      obtain ⟨d, rest, hd, hquote⟩ := head?_escapedChar c
      rw [List.flatMap_cons, hd] at h
      exact absurd (List.head_eq_of_cons_eq h) hquote
    | cons c' s' =>
      rw [List.flatMap_cons, List.flatMap_cons, List.append_assoc, List.append_assoc] at h
      -- what an escaped character is read back as tells the character and where it ends
      have hread := congrArg readEscaped h
      rw [readEscaped_escapedChar, readEscaped_escapedChar] at hread
      obtain ⟨rfl, hrest⟩ := Prod.mk.inj (Option.some.inj hread)
      obtain ⟨rfl, ht⟩ := ih hrest
      exact ⟨rfl, ht⟩

/-- A text in quotes tells where it ends, whatever follows. -/
theorem quoted_told {s s' : String} {t t' : List Char}
    (h : (quoted s).toList ++ t = (quoted s').toList ++ t') : s = s' ∧ t = t' := by
  simp only [quoted, String.toList_ofList, List.cons_append, List.append_assoc, List.nil_append]
    at h
  obtain ⟨hs, ht⟩ := escaped_told (List.tail_eq_of_cons_eq h)
  exact ⟨String.toList_injective hs, ht⟩

/-! ## Numbers -/

/-- Whether a character can stand behind a report. -/
def isEnd (c : Char) : Bool := c == ',' || c == '\n'

/-- What has no end in it is read up to the end. -/
theorem takeWhile_of_follows {s t : List Char} (h : Follows t) (hs : ∀ c ∈ s, isEnd c = false) :
    (s ++ t).takeWhile (!isEnd ·) = s := by
  rw [List.takeWhile_append_of_pos fun c hc => by rw [hs c hc]; rfl]
  cases h with
  | nothing => exact List.append_nil s
  | comma rest => exact List.append_nil s
  | line rest => exact List.append_nil s

theorem toList_ofNat (n : Nat) : (toString (Int.ofNat n)).toList = Nat.toDigits 10 n := by
  rw [Int.toString_eq_repr, Int.repr, Nat.toList_repr]

theorem toList_negSucc (n : Nat) :
    (toString (Int.negSucc n)).toList = '-' :: Nat.toDigits 10 (n + 1) := by
  rw [Int.toString_eq_repr, Int.repr, String.toList_append, Nat.toList_repr]
  rfl

theorem isDigit_of_mem {n : Nat} {c : Char} (h : c ∈ Nat.toDigits 10 n) : c.isDigit = true :=
  Nat.isDigit_of_mem_toDigits (by decide) (by decide) h

/-- A number has no end in it. -/
theorem isEnd_of_mem_number {n : Int} {c : Char} (h : c ∈ (toString n).toList) :
    isEnd c = false := by
  have hsign : c.isDigit = true ∨ c = '-' := by
    cases n with
    | ofNat n => exact .inl (isDigit_of_mem (toList_ofNat n ▸ h))
    | negSucc n =>
      rw [toList_negSucc, List.mem_cons] at h
      exact h.symm.imp_left isDigit_of_mem
  refine Bool.eq_false_iff.2 fun hend => ?_
  obtain rfl | rfl : c = ',' ∨ c = '\n' := by simpa [isEnd] using hend
  · exact absurd hsign (by decide)
  · exact absurd hsign (by decide)

/-- Numbers are told by their digits and sign. -/
theorem toList_number_injective {m n : Int} (h : (toString m).toList = (toString n).toList) :
    m = n := by
  have hdigits {k l : Nat} (h : Nat.toDigits 10 k = Nat.toDigits 10 l) : k = l := by
    rw [← Nat.ofDigitChars_ten_toDigits (n := k), h, Nat.ofDigitChars_ten_toDigits]
  -- no digit is a sign
  have hsign {k l : Nat} (h : Nat.toDigits 10 k = '-' :: Nat.toDigits 10 l) : False := by
    have hdigit : '-'.isDigit = true := isDigit_of_mem (h ▸ List.mem_cons_self)
    exact absurd hdigit (by decide)
  cases m with
  | ofNat k =>
    cases n with
    | ofNat l =>
      rw [toList_ofNat, toList_ofNat] at h
      rw [hdigits h]
    | negSucc l =>
      rw [toList_ofNat, toList_negSucc] at h
      exact (hsign h).elim
  | negSucc k =>
    cases n with
    | ofNat l =>
      rw [toList_ofNat, toList_negSucc] at h
      exact (hsign h.symm).elim
    | negSucc l =>
      rw [toList_negSucc, toList_negSucc] at h
      rw [Nat.succ.inj (hdigits (List.tail_eq_of_cons_eq h))]

/-- A number tells where it ends. -/
theorem number_told {m n : Int} {t t' : List Char} (ht : Follows t) (ht' : Follows t')
    (h : (toString m).toList ++ t = (toString n).toList ++ t') : m = n ∧ t = t' := by
  have hdigits := congrArg (List.takeWhile (!isEnd ·)) h
  rw [takeWhile_of_follows ht fun _ => isEnd_of_mem_number,
    takeWhile_of_follows ht' fun _ => isEnd_of_mem_number] at hdigits
  rw [hdigits] at h
  exact ⟨toList_number_injective hdigits, List.append_cancel_left h⟩

/-! ## Brackets -/

section
variable {α : Type} {w : α → String} {level : Nat} {opening closing : String}

/-- What is written behind the first of some items in brackets: the other items, the closing
bracket, and what follows. -/
def behind (w : α → String) (level : Nat) (closing : String) (items : List α) (t : List Char) :
    List Char :=
  items.flatMap (fun item => ',' :: (newLine (level + 1)).toList ++ (w item).toList) ++
    ((newLine level).toList ++ (closing.toList ++ t))

theorem behind_nil (t : List Char) :
    behind w level closing [] t =
      '\n' :: (List.replicate (2 * level) ' ' ++ (closing.toList ++ t)) := by
  rw [behind, List.flatMap_nil, List.nil_append, newLine, String.toList_ofList, List.cons_append]

theorem behind_cons (item : α) (items : List α) (t : List Char) :
    behind w level closing (item :: items) t =
      ',' :: ((newLine (level + 1)).toList ++
        ((w item).toList ++ behind w level closing items t)) := by
  simp only [behind, List.flatMap_cons, List.append_assoc, List.cons_append]

/-- Behind an item stands a comma or a new line. -/
theorem follows_behind (items : List α) (t : List Char) :
    Follows (behind w level closing items t) := by
  cases items with
  | nil => exact behind_nil (w := w) t ▸ .line _
  | cons item items => exact behind_cons item items t ▸ .comma _

/-- A list of items is its bracket, the first item on a new line, and what stands behind it. -/
theorem toList_bracketed_cons (item : α) (items : List α) (t : List Char) :
    (bracketed opening closing level ((item :: items).map w)).toList ++ t =
      opening.toList ++ ((newLine (level + 1)).toList ++
        ((w item).toList ++ behind w level closing items t)) := by
  have hitems : (String.intercalate ("," ++ newLine (level + 1)) ((item :: items).map w)).toList =
      (w item).toList ++
        items.flatMap fun item => ',' :: (newLine (level + 1)).toList ++ (w item).toList := by
    rw [String.toList_intercalate]
    induction items generalizing item with
    | nil => simp
    | cons next items ih =>
      have hnext := ih next
      rw [List.map_cons, List.map_cons] at hnext ⊢
      rw [List.map_cons, List.map_cons, List.intercalate_cons_cons, hnext, String.toList_append,
        List.flatMap_cons]
      simp only [List.append_assoc, List.cons_append]
      rfl
  rw [List.map_cons] at hitems ⊢
  rw [bracketed, behind]
  · simp only [String.toList_append, hitems, List.append_assoc]
  · exact List.cons_ne_nil _ _

/-- Items are told one by one up to the bracket that closes them. -/
theorem behind_told {items : List α} (hitems : ∀ item ∈ items, Told w item) {items' : List α}
    {t t' : List Char} (h : behind w level closing items t = behind w level closing items' t') :
    items = items' ∧ t = t' := by
  induction items generalizing items' with
  | nil =>
    cases items' with
    | nil => exact ⟨rfl, List.append_cancel_left (List.append_cancel_left h)⟩
    | cons item' items' =>
      rw [behind_nil, behind_cons] at h
      exact absurd (List.head_eq_of_cons_eq h) (by decide)
  | cons item items ih =>
    cases items' with
    | nil =>
      rw [behind_nil, behind_cons] at h
      exact absurd (List.head_eq_of_cons_eq h) (by decide)
    | cons item' items' =>
      rw [behind_cons, behind_cons] at h
      obtain ⟨rfl, hrest⟩ := hitems item List.mem_cons_self item' _ _ (follows_behind items t)
        (follows_behind items' t') (List.append_cancel_left (List.tail_eq_of_cons_eq h))
      obtain ⟨rfl, ht⟩ := ih (fun next hnext => hitems next (List.mem_cons_of_mem _ hnext)) hrest
      exact ⟨rfl, ht⟩

/-- Items in brackets tell how many they are and where they end. -/
theorem bracketed_told (hclosing : ∀ t, (closing.toList ++ t).head? ≠ some '\n') {items : List α}
    (hitems : ∀ item ∈ items, Told w item) {items' : List α} {t t' : List Char}
    (h : (bracketed opening closing level (items.map w)).toList ++ t =
      (bracketed opening closing level (items'.map w)).toList ++ t') :
    items = items' ∧ t = t' := by
  have hnil (t : List Char) : (bracketed opening closing level ([].map w)).toList ++ t =
      opening.toList ++ (closing.toList ++ t) := by
    rw [List.map_nil, bracketed, String.toList_append, List.append_assoc]
  have hline (t : List Char) : ((newLine (level + 1)).toList ++ t).head? = some '\n' := by
    rw [newLine, String.toList_ofList]
    rfl
  -- an empty list closes where another one begins a line, so the two are told apart
  cases items with
  | nil =>
    cases items' with
    | nil =>
      rw [hnil, hnil] at h
      exact ⟨rfl, List.append_cancel_left (List.append_cancel_left h)⟩
    | cons item' items' =>
      rw [hnil, toList_bracketed_cons] at h
      exact absurd ((congrArg List.head? (List.append_cancel_left h)).trans (hline _)) (hclosing _)
  | cons item items =>
    cases items' with
    | nil =>
      rw [hnil, toList_bracketed_cons] at h
      exact absurd ((congrArg List.head? (List.append_cancel_left h)).symm.trans (hline _))
        (hclosing _)
    | cons item' items' =>
      rw [toList_bracketed_cons, toList_bracketed_cons] at h
      -- both have items: the first ones are told, and what is behind them is read on
      have hfirst := List.append_cancel_left (List.append_cancel_left h)
      obtain ⟨rfl, hrest⟩ := hitems item List.mem_cons_self item' _ _ (follows_behind items t)
        (follows_behind items' t') hfirst
      obtain ⟨rfl, ht⟩ :=
        behind_told (fun next hnext => hitems next (List.mem_cons_of_mem _ hnext)) hrest
      exact ⟨rfl, ht⟩

end

/-! ## Reports -/

/-- A member at a level. -/
def writeMember (level : Nat) (m : String × Report) : String :=
  quoted m.1 ++ ": " ++ write level m.2

theorem writeItems_eq_map (level : Nat) (items : List Report) :
    writeItems level items = items.map (write level) := by
  induction items with
  | nil => rw [writeItems, List.map_nil]
  | cons item items ih => rw [writeItems, ih, List.map_cons]

theorem writeMembers_eq_map (level : Nat) (members : List (String × Report)) :
    writeMembers level members = members.map (writeMember level) := by
  induction members with
  | nil => rw [writeMembers, List.map_nil]
  | cons m members ih => rw [writeMembers, ih, List.map_cons, writeMember]

/-- Whether a character is the first one of what is written of a report. -/
def startsWith : Report → Char → Bool
  | .null, c => c == 'n'
  | .number _, c => c == '-' || c.isDigit
  | .text _, c => c == '"'
  | .list _, c => c == '['
  | .object _, c => c == '\x7b'

theorem startsWith_bracketed (opening closing : String) (level : Nat) (items : List String) :
    ∃ more, (bracketed opening closing level items).toList = opening.toList ++ more := by
  cases items with
  | nil => exact ⟨closing.toList, by rw [bracketed, String.toList_append]⟩
  | cons item items =>
    simp only [bracketed, String.toList_append, List.append_assoc]
    exact ⟨_, rfl⟩

/-- The first character tells what kind of report it is. -/
theorem exists_startsWith (level : Nat) (a : Report) :
    ∃ c more, (write level a).toList = c :: more ∧ a.startsWith c = true := by
  cases a with
  | null => exact ⟨'n', _, by rw [write]; rfl, rfl⟩
  | number n =>
    rw [write]
    cases n with
    | ofNat n =>
      obtain ⟨c, more, hdigits⟩ :=
        List.exists_cons_of_ne_nil (Nat.toDigits_ne_nil (n := n) (b := 10))
      refine ⟨c, more, (toList_ofNat n).trans hdigits, ?_⟩
      exact Bool.or_eq_true_iff.2 (.inr (isDigit_of_mem (hdigits ▸ List.mem_cons_self)))
    | negSucc n => exact ⟨'-', _, toList_negSucc n, rfl⟩
  | text s => exact ⟨'"', _, by rw [write, quoted, String.toList_ofList]; rfl, rfl⟩
  | list items =>
    obtain ⟨more, h⟩ := startsWith_bracketed "[" "]" level (writeItems (level + 1) items)
    exact ⟨'[', more, by rw [write, h]; rfl, rfl⟩
  | object members =>
    obtain ⟨more, h⟩ := startsWith_bracketed "\x7b" "\x7d" level (writeMembers (level + 1) members)
    exact ⟨'\x7b', more, by rw [write, h]; rfl, rfl⟩

/-- Reports that are written from the same character on are of the same kind. -/
theorem startsWith_of_write_eq {level : Nat} {a b : Report} {t t' : List Char}
    (h : (write level a).toList ++ t = (write level b).toList ++ t') :
    ∃ c, a.startsWith c = true ∧ b.startsWith c = true := by
  obtain ⟨c, more, ha, hac⟩ := exists_startsWith level a
  obtain ⟨d, more', hb, hbd⟩ := exists_startsWith level b
  rw [ha, hb] at h
  obtain rfl : c = d := List.head_eq_of_cons_eq h
  exact ⟨c, hac, hbd⟩

section
variable {level : Nat}

theorem told_null : Told (write level) .null := by
  intro b t t' _ _ h
  obtain ⟨c, hc, hb⟩ := startsWith_of_write_eq h
  obtain rfl : c = 'n' := eq_of_beq hc
  cases b with
  | null => exact ⟨rfl, List.append_cancel_left h⟩
  | _ => cases hb

/-- A number is told from every other report and from what stands behind it. -/
theorem told_number (n : Int) : Told (write level) (.number n) := by
  intro b t t' ht ht' h
  obtain ⟨c, hc, hb⟩ := startsWith_of_write_eq h
  have hsign : c = '-' ∨ c.isDigit = true := by simpa [startsWith] using hc
  cases b with
  | number m =>
    rw [write, write] at h
    obtain ⟨rfl, htail⟩ := number_told ht ht' h
    exact ⟨rfl, htail⟩
  | _ =>
    rw [eq_of_beq hb] at hsign
    exact absurd hsign (by decide)

theorem told_text (s : String) : Told (write level) (.text s) := by
  intro b t t' _ _ h
  obtain ⟨c, hc, hb⟩ := startsWith_of_write_eq h
  obtain rfl : c = '"' := eq_of_beq hc
  cases b with
  | text s' =>
    rw [write, write] at h
    obtain ⟨rfl, htail⟩ := quoted_told h
    exact ⟨rfl, htail⟩
  | _ => cases hb

theorem told_list {items : List Report} (hitems : ∀ item ∈ items, Told (write (level + 1)) item) :
    Told (write level) (.list items) := by
  intro b t t' _ _ h
  obtain ⟨c, hc, hb⟩ := startsWith_of_write_eq h
  obtain rfl : c = '[' := eq_of_beq hc
  cases b with
  | list items' =>
    rw [write, write, writeItems_eq_map, writeItems_eq_map] at h
    obtain ⟨rfl, htail⟩ := bracketed_told (by simp) hitems h
    exact ⟨rfl, htail⟩
  | _ => cases hb

theorem told_object {members : List (String × Report)}
    (hmembers : ∀ m ∈ members, Told (writeMember (level + 1)) m) :
    Told (write level) (.object members) := by
  intro b t t' _ _ h
  obtain ⟨c, hc, hb⟩ := startsWith_of_write_eq h
  obtain rfl : c = '\x7b' := eq_of_beq hc
  cases b with
  | object members' =>
    rw [write, write, writeMembers_eq_map, writeMembers_eq_map] at h
    obtain ⟨rfl, htail⟩ := bracketed_told (by simp) hmembers h
    exact ⟨rfl, htail⟩
  | _ => cases hb

/-- A member is told by its name and its value. -/
theorem told_member {name : String} {value : Report} (hvalue : Told (write level) value) :
    Told (writeMember level) (name, value) := by
  intro (name', value') t t' ht ht' h
  simp only [writeMember, String.toList_append, List.append_assoc] at h
  obtain ⟨rfl, hbehind⟩ := quoted_told h
  obtain ⟨rfl, htail⟩ := hvalue value' t t' ht ht' (List.append_cancel_left hbehind)
  exact ⟨rfl, htail⟩

end

mutual

/-- A report tells what it is and where it ends. -/
theorem told_write (level : Nat) : ∀ a : Report, Told (write level) a
  | .null => told_null
  | .number n => told_number n
  | .text s => told_text s
  | .list items => told_list (told_items (level + 1) items)
  | .object members => told_object (told_members (level + 1) members)

theorem told_items (level : Nat) : ∀ items : List Report, ∀ item ∈ items, Told (write level) item
  | [] => fun _ h => absurd h List.not_mem_nil
  | first :: others => List.forall_mem_cons.2 ⟨told_write level first, told_items level others⟩

theorem told_members (level : Nat) :
    ∀ members : List (String × Report), ∀ m ∈ members, Told (writeMember level) m
  | [] => fun _ h => absurd h List.not_mem_nil
  | (_, value) :: others =>
    List.forall_mem_cons.2 ⟨told_member (told_write level value), told_members level others⟩

end

/-- No two reports are printed alike. -/
theorem print_injective : Function.Injective print := by
  intro a b h
  have hchars := congrArg String.toList h
  rw [print, print, String.toList_append, String.toList_append] at hchars
  exact (told_write 0 a b _ _ (.line []) (.line []) hchars).1

end Mustache.Report
