import DashboardKit.Yaml.Node
import DashboardKit.Yaml.Token.Lexer

/-!
# YAML: from tokens to nodes

Tokens are read from left to right, each of them once.  The readers below follow the grammar of
documents: nodes with their properties, block collections, collections in brackets, and the lists
that stand without an indentation of their own below a key.

Every reader takes a bound on the depth of calls.  A call takes a token or goes from a node to the
collection that it is, so that twice the number of tokens is enough.
-/

set_option autoImplicit false

namespace DashboardKit.Yaml

/-- What is known while the nodes of a document are read. -/
structure Progress where
  tokens : List Token
  nodes : Array Node
  anchors : List (List Char × Nat)
  /-- what the tag handles stand for -/
  handles : List (List Char × List Char)

/-- A step that reads tokens and adds nodes. -/
abbrev Composing (α : Type) : Type := StateT Progress (Except LexFault) α

namespace Composing

/-- The text is no document. -/
def malformed {α : Type} : Composing α := throw .malformed

/-- The next token. -/
def peek : Composing Token := do
  match (← get).tokens with
  | [] => malformed
  | .fault f :: _ => throw f
  | t :: _ => return t

/-- Leaves the next token behind. -/
def drop : Composing Unit := modify fun s => { s with tokens := s.tokens.drop 1 }

/-- Leaves the next token behind if it is the given one, and says whether it is. -/
def eat (t : Token) : Composing Bool := do
  if (← peek) = t then
    drop
    return true
  else return false

/-- Leaves the next token behind, which has to be the given one. -/
def expect (t : Token) : Composing Unit := do
  if !(← eat t) then malformed

/-- Adds a node. -/
def add (n : Node) : Composing Nat := do
  let s ← get
  set { s with nodes := s.nodes.push n }
  return s.nodes.size

/-- Gives a node that was added its body. -/
def fill (i : Nat) (body : Body) : Composing Unit :=
  modify fun s => { s with nodes := s.nodes.modify i fun n => { n with body } }

/-- Adds the node of a value that is not written. -/
def absent : Composing Nat := add ⟨.null, .scalar []⟩

/-- Gives a node a name; no name is given twice. -/
def nameNode (anchor : Option (List Char)) (i : Nat) : Composing Nat := do
  if let some name := anchor then
    modify fun s => { s with anchors := (name, i) :: s.anchors }
  return i

end Composing

open Composing

/-- The anchor and the tag in front of a node, in either order. -/
def properties : Composing (Option (List Char) × Option TagText) := do
  match ← peek with
  | .anchor name =>
    drop
    match ← peek with
    | .tag text => drop; return (some name, some text)
    | _ => return (some name, none)
  | .tag text =>
    drop
    match ← peek with
    | .anchor name => drop; return (some name, some text)
    | _ => return (none, some text)
  | _ => return (none, none)

/-- The whole text of a tag. -/
def expandTag : TagText → Composing (List Char)
  | .verbatim uri => return uri
  | .withHandle handle suffix => do
    match (← get).handles.lookup handle with
    | none => malformed
    | some start => return start ++ suffix

/-- The tag of a scalar.  A lone exclamation mark asks for the form to decide, also between quotes.
-/
def scalarTag (tag : Option (List Char)) (plain : Bool) (text : Text) : Tag :=
  match tag with
  | none => if plain then Tag.ofForm text else .text
  | some ['!'] => Tag.ofForm text
  | some uri => Tag.ofUri uri

/-- The tag of a collection, when `usual` is the one without a tag. -/
def collectionTag (tag : Option (List Char)) (usual : Tag) : Tag :=
  match tag with
  | none => usual
  | some ['!'] => usual
  | some uri => Tag.ofUri uri

/-- A collection whose parts are read by `read`.  It has its name while they are read. -/
def collection (anchor : Option (List Char)) (tag : Tag) (read : Composing Body) :
    Composing Nat := do
  let i ← add ⟨tag, .sequence []⟩
  let i ← nameNode anchor i
  fill i (← read)
  return i

mutual

/-- A node.  Block collections are allowed if `block` holds, and a list without an indentation of
its own if `indentless` does. -/
def node (bound : Nat) (block indentless : Bool) : Composing Nat :=
  match bound with
  | 0 => malformed
  | bound + 1 => do
    if let .alias_ name := ← peek then
      drop
      match (← get).anchors.lookup name with
      | none => malformed
      | some i => return i
    let (anchor, tagText) ← properties
    let tag ← tagText.mapM expandTag
    let t ← peek
    let fresh : Composing Unit := do
      if let some name := anchor then
        if ((← get).anchors.lookup name).isSome then malformed
    let listTag := collectionTag tag .list
    let mapTag := collectionTag tag .map
    if indentless && t = .blockEntry then
      fresh
      collection anchor listTag (return .sequence (← indentlessItems bound))
    else
      match t with
      | .scalar plain text =>
        drop
        fresh
        nameNode anchor (← add ⟨scalarTag tag plain text, .scalar text⟩)
      | .flowSequenceStart =>
        fresh
        drop
        collection anchor listTag (return .sequence (← flowItems bound true))
      | .flowMappingStart =>
        fresh
        drop
        collection anchor mapTag (return .mapping (← flowEntries bound true))
      | _ =>
        if block && t = .sequenceStart then
          fresh
          drop
          collection anchor listTag (return .sequence (← blockItems bound))
        else if block && t = .mappingStart then
          fresh
          drop
          collection anchor mapTag (return .mapping (← blockEntries bound))
        else if anchor.isSome || tag.isSome then
          fresh
          nameNode anchor (← add ⟨scalarTag tag true [], .scalar []⟩)
        else malformed

/-- A node, or nothing in front of one of the given tokens. -/
def nodeUnless (bound : Nat) (block indentless : Bool) (ends : List Token) : Composing Nat :=
  match bound with
  | 0 => malformed
  | bound + 1 => do
    if ends.contains (← peek) then absent else node bound block indentless

/-- The items of a block list. -/
def blockItems (bound : Nat) : Composing (List Nat) :=
  match bound with
  | 0 => malformed
  | bound + 1 => do
    if ← eat .blockEntry then
      let item ← nodeUnless bound true false [.blockEntry, .blockEnd]
      return item :: (← blockItems bound)
    else
      expect .blockEnd
      return []

/-- The items of a list without an indentation of its own. -/
def indentlessItems (bound : Nat) : Composing (List Nat) :=
  match bound with
  | 0 => malformed
  | bound + 1 => do
    if ← eat .blockEntry then
      let item ← nodeUnless bound true false [.blockEntry, .key, .value, .blockEnd]
      return item :: (← indentlessItems bound)
    else return []

/-- The value of a block map entry. -/
def blockValue (bound : Nat) : Composing Nat :=
  match bound with
  | 0 => malformed
  | bound + 1 => do
    if ← eat .value then nodeUnless bound true true [.key, .value, .blockEnd]
    else absent

/-- The entries of a block map. -/
def blockEntries (bound : Nat) : Composing (List (Nat × Nat)) :=
  match bound with
  | 0 => malformed
  | bound + 1 => do
    if ← eat .key then
      let key ← nodeUnless bound true true [.key, .value, .blockEnd]
      let value ← blockValue bound
      return (key, value) :: (← blockEntries bound)
    else
      expect .blockEnd
      return []

/-- The value of an entry in brackets, which `closing` may end. -/
def flowValue (bound : Nat) (closing : Token) : Composing Nat :=
  match bound with
  | 0 => malformed
  | bound + 1 => do
    if ← eat .value then nodeUnless bound false false [.flowEntry, closing]
    else absent

/-- The items of a list in brackets; all but the first come after a comma.  An item with a key is a
map of one entry. -/
def flowItems (bound : Nat) (first : Bool) : Composing (List Nat) :=
  match bound with
  | 0 => malformed
  | bound + 1 => do
    if ← eat .flowSequenceEnd then return []
    if !first then expect .flowEntry
    if ← eat .flowSequenceEnd then return []
    let item ←
      if ← eat .key then
        collection none .map do
          let key ← nodeUnless bound false false [.value, .flowEntry, .flowSequenceEnd]
          let value ← flowValue bound .flowSequenceEnd
          return .mapping [(key, value)]
      else node bound false false
    return item :: (← flowItems bound false)

/-- The entries of a map in brackets; all but the first come after a comma.  A node on its own is a
key without a value. -/
def flowEntries (bound : Nat) (first : Bool) : Composing (List (Nat × Nat)) :=
  match bound with
  | 0 => malformed
  | bound + 1 => do
    if ← eat .flowMappingEnd then return []
    if !first then expect .flowEntry
    if ← eat .flowMappingEnd then return []
    if ← eat .key then
      let key ← nodeUnless bound false false [.value, .flowEntry, .flowMappingEnd]
      let value ← flowValue bound .flowMappingEnd
      return (key, value) :: (← flowEntries bound false)
    else
      let key ← node bound false false
      let value ← absent
      return (key, value) :: (← flowEntries bound false)

end

/-! ## Documents -/

/-- The tag handles that are always there. -/
def usualHandles : List (List Char × List Char) := [(['!'], ['!']), (['!', '!'], tagStart)]

/-- The directives in front of a document: at most one version, which has to be 1, and no tag handle
twice. -/
def directives (bound : Nat) (versioned : Bool) (handles : List (List Char × List Char)) :
    Composing Unit :=
  match bound with
  | 0 => malformed
  | bound + 1 => do
    match ← peek with
    | .directive (.version major _) =>
      drop
      if versioned || major != 1 then malformed
      directives bound true handles
    | .directive (.tagHandle handle start) =>
      drop
      if (handles.lookup handle).isSome then malformed
      directives bound versioned ((handle, start) :: handles)
    | .directive .reserved =>
      drop
      directives bound versioned handles
    | _ => modify fun s => { s with handles := handles ++ usualHandles }

/-- Leaves the marks of document ends behind. -/
def documentEnds : (bound : Nat) → Composing Unit
  | 0 => malformed
  | bound + 1 => do if ← eat .documentEnd then documentEnds bound

/-- The start of a document that is marked. -/
def documentStart (bound : Nat) : Composing Unit := do
  directives bound false []
  expect .documentStart

/-- Whether a token starts a document or stands before one. -/
def Token.atDocumentEdge : Token → Bool
  | .directive _ => true
  | .documentStart => true
  | .documentEnd => true
  | .streamEnd => true
  | _ => false

/-- The only document of a text, if there is one. -/
def onlyDocument (bound : Nat) : Composing (Option Nat) := do
  match ← peek with
  | .streamEnd => return none
  | t =>
    let explicit := t.atDocumentEdge && t != .documentEnd
    if explicit then documentStart bound
    let root ←
      if explicit && (← peek).atDocumentEdge then absent
      else node bound true false
    -- what follows may only be marks of its end
    documentEnds bound
    if (← peek) = .streamEnd then return some root
    documentStart bound
    malformed

/-- The document that tokens spell; nothing if there are none but the end. -/
def Document.ofTokens? (tokens : List Token) : Except LexFault (Option Document) :=
  let bound := 2 * tokens.length + 4
  match (onlyDocument bound).run ⟨tokens, #[], [], usualHandles⟩ with
  | .error f => .error f
  | .ok (none, _) => .ok none
  | .ok (some root, s) => .ok (some ⟨s.nodes, root⟩)

end DashboardKit.Yaml
