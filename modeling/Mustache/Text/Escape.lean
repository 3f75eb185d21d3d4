/-!
# Escaping for HTML

The five characters that can end a text or an attribute are written as entities, one character at
a time, so that no entity is escaped again.
-/

namespace Mustache.Text

/-- The written form of one character. -/
def escapeChar : Char → List Char
  | '&' => ['&', 'a', 'm', 'p', ';']
  | '<' => ['&', 'l', 't', ';']
  | '>' => ['&', 'g', 't', ';']
  | '"' => ['&', 'q', 'u', 'o', 't', ';']
  | '\'' => ['&', '#', 'x', '2', '7', ';']
  | c => [c]

/-- A text with every special character written as an entity. -/
def escapeChars (s : List Char) : List Char := s.flatMap escapeChar

/-- `escapeChars` on strings. -/
def escape (s : String) : String := String.ofList (escapeChars s.toList)

@[simp] theorem escapeChars_nil : escapeChars [] = [] := rfl

@[simp] theorem escapeChars_cons (c : Char) (s : List Char) :
    escapeChars (c :: s) = escapeChar c ++ escapeChars s := rfl

@[simp] theorem escapeChars_append (s t : List Char) :
    escapeChars (s ++ t) = escapeChars s ++ escapeChars t := List.flatMap_append

end Mustache.Text
