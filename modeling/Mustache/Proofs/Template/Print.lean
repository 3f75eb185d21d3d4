import Mustache.Proofs.Template.LineGrammar
import Mustache.Template.Basic

/-!
# Printing nodes

Nodes are written down as the text of a template, a tag for each node that is not text and two for
a block. A tag that is alone among blanks on its line would take the blanks and the line break with
it, so every tag is followed at once by a pragma, which stands for nothing.

Not every list of nodes can be told from its text. A name is trimmed and ends at the next two
braces, texts side by side become one, and in a text two braces mean a tag. The printable nodes are
those to which nothing of this kind can happen.
-/

namespace Mustache

/-- The character that marks a tag of a kind; a variable's tag has no mark. -/
def Token.Kind.mark : Token.Kind → List Char
  | .comment => ['!']
  | .sectionStart => ['#']
  | .invertedStart => ['^']
  | .sectionEnd => ['/']
  | .inclusion => ['>']
  | .unescaped => ['&']
  | .pragma => ['%']
  | .variable | .text | .finish => []

/-- The kinds of tokens that are tags. -/
def Token.Kind.IsTag (kind : Token.Kind) : Prop := kind ≠ .text ∧ kind ≠ .finish

namespace Node

/-- A tag of a kind with a name, and a pragma behind it. -/
def printTag (kind : Token.Kind) (name : String) : String :=
  SyntaxProblem.tag (String.ofList kind.mark ++ " " ++ name ++ " ") ++ SyntaxProblem.tag "%"

mutual

/-- The text of a node. -/
def print : Node → String
  | .text s => s
  | .variable name escape => printTag (if escape then .variable else .unescaped) name
  | .block inverted name body =>
    printTag (if inverted then .invertedStart else .sectionStart) name ++ printAll body ++
      printTag .sectionEnd name
  | .inclusion name => printTag .inclusion name
  | .comment s => printTag .comment s
  | .foreign => ""

/-- The text of nodes. -/
def printAll : List Node → String
  | [] => ""
  | node :: rest => print node ++ printAll rest

end

example : printAll [.block true "a" [.variable "b" false], .variable "b" true, .comment "c"] =
    "\x7b\x7b^ a \x7d\x7d\x7b\x7b%\x7d\x7d\x7b\x7b& b \x7d\x7d\x7b\x7b%\x7d\x7d" ++
      "\x7b\x7b/ a \x7d\x7d\x7b\x7b%\x7d\x7d\x7b\x7b b \x7d\x7d\x7b\x7b%\x7d\x7d" ++
      "\x7b\x7b! c \x7d\x7d\x7b\x7b%\x7d\x7d" := by
  decide

/-- The texts that a tag can hold between blanks and give back. -/
def FitsTag (s : String) : Prop :=
  Text.trimmed s = s ∧ '\n' ∉ s.toList ∧ Line.Apart '}' '}' s.toList

/-- Whether nodes begin with text. -/
def beginsWithText : List Node → Bool
  | .text _ :: _ => true
  | _ => false

mutual

/-- The nodes that can be told from their text. -/
def Printable : Node → Prop
  | .text s => s ≠ "" ∧ Line.Layout.MayPrecedeTag s.toList
  | .variable name _ => name ≠ "" ∧ FitsTag name
  | .block _ name body => (name ≠ "" ∧ FitsTag name) ∧ AllPrintable body
  | .inclusion name => name ≠ "" ∧ FitsTag name
  | .comment s => FitsTag s
  | .foreign => False

/-- The lists of printable nodes in which no two texts stand side by side. -/
def AllPrintable : List Node → Prop
  | [] => True
  | node :: rest =>
    Printable node ∧ AllPrintable rest ∧ (beginsWithText [node] → ¬ beginsWithText rest)

end

instance : DecidablePred FitsTag := fun _ => inferInstanceAs (Decidable (_ ∧ _))

mutual

instance decidablePrintable : DecidablePred Printable
  | .text _ => inferInstanceAs (Decidable (_ ∧ _))
  | .variable _ _ => inferInstanceAs (Decidable (_ ∧ _))
  | .block _ name body =>
    have := decidableAllPrintable body
    inferInstanceAs (Decidable ((name ≠ "" ∧ FitsTag name) ∧ AllPrintable body))
  | .inclusion _ => inferInstanceAs (Decidable (_ ∧ _))
  | .comment s => inferInstanceAs (Decidable (FitsTag s))
  | .foreign => inferInstanceAs (Decidable False)

instance decidableAllPrintable : DecidablePred AllPrintable
  | [] => inferInstanceAs (Decidable True)
  | node :: rest =>
    have := decidablePrintable node
    have := decidableAllPrintable rest
    inferInstanceAs (Decidable (Printable node ∧ AllPrintable rest ∧
      (beginsWithText [node] → ¬ beginsWithText rest)))

end

end Node

namespace Line

/-! ## Tags as they are printed -/

namespace Tag

/-- The tag of a kind that holds a name between blanks. -/
def spaced (kind : Token.Kind) (name : String) : Tag :=
  .double (kind.mark ++ ' ' :: name.toList ++ [' '])

/-- A pragma that says nothing. -/
def blankPragma : Tag := .double ['%']

/-- A printed tag is the tag with blanks about its name, and a pragma that keeps it from standing
alone. -/
theorem toList_printTag (kind : Token.Kind) (name : String) :
    (Node.printTag kind name).toList = (spaced kind name).chars ++ blankPragma.chars := by
  simp [Node.printTag, SyntaxProblem.tag, spaced, blankPragma, chars]

end Tag

end Line

/-- Blanks at the two ends of a text are trimmed off. -/
theorem Text.trim_spaced (s : List Char) : trim (' ' :: (s ++ [' '])) = trim s := by
  have hblank : isBlank ' ' = true := rfl
  rw [trim, trim, trimStart, List.dropWhile_cons_of_pos hblank, List.dropWhile_append]
  split
  · next h =>
    rw [List.dropWhile_cons_of_pos hblank, trimStart, List.isEmpty_iff.1 h]
    rfl
  · rw [trimEnd, List.reverse_append]
    exact congrArg List.reverse (List.dropWhile_cons_of_pos hblank)

namespace Line.Tag

section
variable {kind : Token.Kind} {name : String}

theorem kind_spaced (hkind : kind.IsTag) : (spaced kind name).kind = kind := by
  obtain ⟨htext, hfinish⟩ := hkind
  cases kind <;> first | rfl | contradiction

/-- The blanks are part of what the tag holds, and are trimmed when it is read. -/
theorem name_spaced (hkind : kind.IsTag) :
    (spaced kind name).name = ' ' :: (name.toList ++ [' ']) := by
  rw [spaced, Tag.name, ← spaced, kind_spaced hkind]
  obtain ⟨htext, hfinish⟩ := hkind
  cases kind <;> first | rfl | contradiction

/-- The name comes back without the blanks around it. -/
theorem trim_name_spaced (hkind : kind.IsTag) (hname : Node.FitsTag name) :
    Text.trim (spaced kind name).name = name.toList := by
  have htrim := congrArg String.toList hname.1
  rw [Text.trimmed, String.toList_ofList] at htrim
  rw [name_spaced hkind, Text.trim_spaced, htrim]

/-- A name that fits makes a valid tag. -/
theorem valid_spaced (hkind : kind.IsTag) (hname : Node.FitsTag name)
    (hnamed : kind = .comment ∨ name ≠ "") : (spaced kind name).Valid := by
  refine ⟨by simp, ?_, ?_, ?_, ?_⟩
  · cases kind <;> simp [Token.Kind.mark]
  · rw [apart_concat_of_ne (by decide)]
    have hinside : Apart '}' '}' (' ' :: name.toList) :=
      (apart_cons_of_ne (by decide)).2 hname.2.2
    cases kind <;> first | exact hinside | exact (apart_cons_of_ne (by decide)).2 hinside
  · rw [List.getLast?_concat]
    decide
  · show (spaced kind name).namesNothing ∨ Text.trim (spaced kind name).name ≠ []
    rw [namesNothing, kind_spaced hkind, trim_name_spaced hkind hname]
    exact hnamed.imp Or.inl fun h => by simpa using h

theorem not_mem_chars_spaced (hname : Node.FitsTag name) : '\n' ∉ (spaced kind name).chars := by
  have hnewline := hname.2.1
  cases kind <;> simp [spaced, chars, Token.Kind.mark, hnewline]

end

end Line.Tag

end Mustache
