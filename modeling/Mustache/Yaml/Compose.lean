import Mustache.Yaml.Node
import Mustache.Yaml.Scan

/-!
# From tokens to nodes

Reading a node consumes its tokens and remembers the nodes with an anchor, so that later aliases
stand for them. A node with an anchor that is not yet complete cannot be referred to. No reading
calls more than four others before a token is consumed, which bounds the depth of the calls.
-/

namespace Mustache.Yaml

/-- The tokens left, and the nodes with an anchor; one that is being read has none yet. -/
structure Reading where
  tokens : List Token
  anchors : List (String × Option Node) := []
  /-- The beginnings of tags by their names. -/
  shorthands : List (String × String) := [("!", "!"), ("!!", Tag.start)]

/-- A part of the reading of nodes. -/
abbrev Composing (α : Type) := StateT Reading (Except Problem) α

namespace Composing

/-- Gives up. -/
def fail {α : Type} : Composing α := fun _ => .error .unreadable

/-- The next token. -/
def peek : Composing (Option Token) := fun s => .ok (s.tokens.head?, s)

/-- Consumes a token. -/
def drop : Composing Unit := fun s => .ok ((), { s with tokens := s.tokens.tail })

/-- Whether the next token is one of some tokens. -/
def isAt (tokens : List Token) : Composing Bool := fun s =>
  .ok (match s.tokens.head? with
    | none => false
    | some t => tokens.contains t, s)

/-- Consumes the next token if it is a given one, and says whether it was. -/
def skipIf (t : Token) : Composing Bool := fun s =>
  if s.tokens.head? = some t then .ok (true, { s with tokens := s.tokens.tail }) else .ok (false, s)

/-- Consumes a given token, which must be next. -/
def expect (t : Token) : Composing Unit := do if !(← skipIf t) then fail

/-- Consumes an anchor, if there is one. -/
def anchor : Composing (Option String) := do
  match ← peek with
  | some (.anchor name) => drop; return some name
  | _ => return none

/-- Consumes a tag, if there is one, and gives its name. -/
def tag : Composing (Option String) := do
  match ← peek with
  | some (.tag handle suffix) =>
    drop
    match handle with
    | none => return some suffix
    | some handle =>
      match (← get).shorthands.lookup handle with
      | none => fail
      | some start => return some (start ++ suffix)
  | _ => return none

/-- Consumes an anchor and a tag in either order. -/
def properties : Composing (Option String × Option String) := do
  match ← anchor with
  | some name => return (some name, ← tag)
  | none =>
    let found ← tag
    let name ← if found.isSome then anchor else pure none
    return (name, found)

/-- Notes that a node with an anchor starts. -/
def startAnchor (name : Option String) : Composing Unit :=
  match name with
  | none => return ()
  | some name => modify fun s => { s with anchors := (name, none) :: s.anchors }

/-- Notes the node of an anchor, unless another node has taken its name by now. -/
def endAnchor (name : Option String) (node : Node) : Composing Node :=
  match name with
  | none => return node
  | some name => do
    modify fun s =>
      if s.anchors.lookup name matches some none then
        { s with anchors := (name, some node) :: s.anchors }
      else s
    return node

/-- The node that an alias stands for. -/
def referent (name : String) : Composing Node := do
  match (← get).anchors.lookup name with
  | some (some node) => return node
  | _ => fail

/-- The node of a missing scalar. -/
def missing : Node := .scalar .null []

/-- The tag of a collection; without one of its own it has the usual one. -/
def collectionTag (name : Option String) (usual : Tag) : Tag :=
  match name with
  | none | some "!" => usual
  | some name => .ofName name

/-- The tag of a scalar; without one of its own it depends on the text. -/
def scalarTag (name : Option String) (text : List Char) (plain : Bool) : Tag :=
  match name with
  | none => if plain then .ofPlain text else .text
  | some "!" => .ofPlain text
  | some name => .ofName name

/-- Tokens behind which the value of a key or an item is missing. -/
def blockStops : List Token := [.key, .value, .blockEnd]

/-- A node of which there is nothing but an anchor or a tag. -/
def bare (name found : Option String) : Composing Node :=
  if name.isNone && found.isNone then fail
  else endAnchor name (.scalar (scalarTag found [] true) [])

mutual

/-- Reads a node; `inBlock` allows blocks, and `flat` items of a sequence without indentation. -/
def node (inBlock flat : Bool) : Nat → Composing Node
  | 0 => fail
  | fuel + 1 => do
    match ← peek with
    | some (.reference name) => drop; referent name
    | _ =>
      let (name, found) ← properties
      let ends ← peek
      startAnchor name
      match ends with
      | some .blockEntry =>
        if flat then
          let items ← flatItems fuel
          endAnchor name (.sequence (collectionTag found .sequence) items)
        else bare name found
      | some (.scalar text plain) =>
        drop
        let text := text.toList
        endAnchor name (.scalar (scalarTag found text plain) text)
      | some .flowSequence =>
        drop
        let items ← flowItems true fuel
        endAnchor name (.sequence (collectionTag found .sequence) items)
      | some .flowMapping =>
        drop
        let entries ← flowEntries true fuel
        endAnchor name (.ofEntries (collectionTag found .mapping) entries)
      | some .blockSequence =>
        if !inBlock then bare name found
        else
          drop
          let items ← blockItems fuel
          endAnchor name (.sequence (collectionTag found .sequence) items)
      | some .blockMapping =>
        if !inBlock then bare name found
        else
          drop
          let entries ← blockEntries fuel
          endAnchor name (.ofEntries (collectionTag found .mapping) entries)
      | _ => bare name found

/-- Reads a node, unless one of some tokens shows that it is missing. -/
def nodeUnless (stops : List Token) (inBlock flat : Bool) : Nat → Composing Node
  | 0 => fail
  | fuel + 1 => do if ← isAt stops then return missing else node inBlock flat fuel

/-- Reads the items of an indented sequence. -/
def blockItems : Nat → Composing (List Node)
  | 0 => fail
  | fuel + 1 => do
    if ← skipIf .blockEntry then
      let first ← nodeUnless [.blockEntry, .blockEnd] true false fuel
      return first :: (← blockItems fuel)
    else
      expect .blockEnd
      return []

/-- Reads the items of a sequence that is not indented. -/
def flatItems : Nat → Composing (List Node)
  | 0 => fail
  | fuel + 1 => do
    if ← skipIf .blockEntry then
      let first ← nodeUnless (.blockEntry :: blockStops) true false fuel
      return first :: (← flatItems fuel)
    else return []

/-- Reads the entries of an indented mapping; a key, a value or both may be missing. -/
def blockEntries : Nat → Composing (List (Node × Node))
  | 0 => fail
  | fuel + 1 => do
    if ← skipIf .key then
      let key ← nodeUnless blockStops true true fuel
      let value ← blockValue fuel
      return (key, value) :: (← blockEntries fuel)
    else if ← isAt [.value] then
      let value ← blockValue fuel
      return (missing, value) :: (← blockEntries fuel)
    else
      expect .blockEnd
      return []

/-- Reads the value of an entry of an indented mapping. -/
def blockValue : Nat → Composing Node
  | 0 => fail
  | fuel + 1 => do
    if ← skipIf .value then nodeUnless blockStops true true fuel else return missing

/-- Reads the items between square brackets; a key between them is a mapping of one entry. -/
def flowItems (first : Bool) : Nat → Composing (List Node)
  | 0 => fail
  | fuel + 1 => do
    if ← skipIf .flowSequenceEnd then return []
    else
      if !first then expect .flowEntry
      if ← skipIf .key then
        let key ← nodeUnless [.value, .flowEntry, .flowSequenceEnd] false false fuel
        let value ← flowValue .flowSequenceEnd fuel
        return .ofEntries .mapping [(key, value)] :: (← flowItems false fuel)
      else if ← skipIf .flowSequenceEnd then return []
      else
        let item ← node false false fuel
        return item :: (← flowItems false fuel)

/-- Reads the entries between curly brackets; a key, a value or both may be missing. -/
def flowEntries (first : Bool) : Nat → Composing (List (Node × Node))
  | 0 => fail
  | fuel + 1 => do
    if ← skipIf .flowMappingEnd then return []
    else
      if !first then expect .flowEntry
      if ← skipIf .key then
        let key ← nodeUnless [.value, .flowEntry, .flowMappingEnd] false false fuel
        let value ← flowValue .flowMappingEnd fuel
        return (key, value) :: (← flowEntries false fuel)
      else if ← isAt [.value] then
        let value ← flowValue .flowMappingEnd fuel
        return (missing, value) :: (← flowEntries false fuel)
      else if ← skipIf .flowMappingEnd then return []
      else
        let key ← node false false fuel
        return (key, missing) :: (← flowEntries false fuel)

/-- Reads the value of an entry between brackets. -/
def flowValue (closing : Token) : Nat → Composing Node
  | 0 => fail
  | fuel + 1 => do
    if ← skipIf .value then nodeUnless [.flowEntry, closing] false false fuel else return missing

end

/-- Reads directives, which name the beginnings of tags; no name is given twice. -/
def directives : List Token → (found : List (String × String)) →
    Except Problem (List (String × String) × List Token)
  | .directive none :: rest, found => directives rest found
  | .directive (some (handle, start)) :: rest, found =>
    if (found.lookup handle).isSome then .error .unreadable
    else directives rest ((handle, start) :: found)
  | tokens, found => .ok (found, tokens)

/-- The calls that reading some tokens takes at most inside each other. -/
def fuelFor (tokens : List Token) : Nat := 4 * tokens.length + 4

/-- Reads the node of a document that is all there is. -/
def root (tokens : List Token) (shorthands : List (String × String)) : Except Problem Node := do
  let start : Reading := { tokens }
  let (found, after) ← node true false (fuelFor tokens)
    { start with shorthands := shorthands ++ start.shorthands }
  match after.tokens with
  | [] | [.documentEnd] => return found
  | _ => throw .unreadable

end Composing

/-- The node of a document with these tokens; none if there is no document. -/
def Node.ofTokens (tokens : List Token) : Except Problem (Option Node) :=
  let isDirective : Token → Bool
    | .directive _ => true
    | _ => false
  match tokens with
  | [] => .ok none
  | first :: _ =>
    if isDirective first || first == .documentStart then do
      let (shorthands, rest) ← Composing.directives tokens []
      match rest with
      | .documentStart :: content =>
        match content with
        | [] | [.documentEnd] => return some Composing.missing
        | content => return some (← Composing.root content shorthands)
      | _ => throw .unreadable
    else do return some (← Composing.root tokens [])

end Mustache.Yaml
