import DashboardKit.Yaml.Token.Properties

/-!
# YAML: cutting a text into tokens

A key can only be told from a plain value when its colon is reached.  The lexer therefore remembers
where a key may have started, and puts the token that announces it there afterwards.  A possible
key is forgotten when the line ends or after 1024 characters; one that has to be a key, because it
stands at the indentation of a block map, is a fault then.

A text that cannot be cut to its end gives the tokens up to the fault and then the fault itself.
Tokens that could still get a key announced before them are not given.
-/

set_option autoImplicit false

namespace DashboardKit.Yaml

/-- A place where a key may have started. -/
structure PossibleKey where
  /-- the number of tokens in front -/
  token : Nat
  /-- whether a key has to be here -/
  required : Bool
  index : Nat
  line : Nat
  column : Nat
  deriving Repr

/-- The state between two tokens. -/
structure Lexer where
  cursor : Cursor
  tokens : Array Token
  /-- the number of flow collections around the cursor -/
  flowLevel : Nat
  /-- the column of the innermost block collection, and those of the ones around it -/
  indent : Int
  indents : List Int
  /-- whether a key may start here -/
  allowKey : Bool
  /-- the possible keys, at most one for each level of flow collections -/
  possible : List (Nat × PossibleKey)
  deriving Repr

namespace Lexer

/-- The state at the start of a text. -/
def start (text : List Char) : Lexer := ⟨.start text, #[], 0, -1, [], true, []⟩

/-- One more token. -/
def push (l : Lexer) (t : Token) : Lexer := { l with tokens := l.tokens.push t }

/-- A token at a place among those that are there. -/
def insertAt (l : Lexer) (n : Nat) (t : Token) : Lexer :=
  { l with tokens := (l.tokens.take n).push t ++ l.tokens.drop n }

/-- Whether the cursor is inside a flow collection. -/
def inFlow (l : Lexer) : Bool := l.flowLevel != 0

/-- Forgets the possible keys that the cursor has left behind. -/
def dropStale (l : Lexer) : Except LexFault Lexer :=
  let stale (k : PossibleKey) : Bool := k.line != l.cursor.line || k.index + 1024 < l.cursor.index
  if l.possible.any fun p => stale p.2 && p.2.required then .error .malformed
  else .ok { l with possible := l.possible.filter fun p => !stale p.2 }

/-- Forgets the possible key of this level. -/
def dropKey (l : Lexer) : Except LexFault Lexer :=
  if l.possible.any fun p => p.1 == l.flowLevel && p.2.required then .error .malformed
  else .ok { l with possible := l.possible.filter fun p => p.1 != l.flowLevel }

/-- Remembers that a key may start here. -/
def noteKey (l : Lexer) : Except LexFault Lexer :=
  if l.allowKey then
    l.dropKey.map fun l =>
      let c := l.cursor
      let key : PossibleKey :=
        { token := l.tokens.size
          required := !l.inFlow && l.indent == c.column
          index := c.index, line := c.line, column := c.column }
      { l with possible := (l.flowLevel, key) :: l.possible }
  else .ok l

/-- Closes the block collections that are indented further than a column. -/
def unwindFrom (column : Int) : List Int → Lexer → Lexer
  | [], l => l
  | outer :: rest, l =>
    if column < l.indent then
      unwindFrom column rest { l.push .blockEnd with indent := outer, indents := rest }
    else l

/-- Closes the block collections that are indented further than a column. -/
def unwind (l : Lexer) (column : Int) : Lexer :=
  if l.inFlow then l else unwindFrom column l.indents l

/-- Enters a block collection at a column, unless it is entered already. -/
def enter (l : Lexer) (column : Nat) : Option Lexer :=
  if l.indent < column then
    some { l with indents := l.indent :: l.indents, indent := column }
  else none

/-- The blanks, comments and line breaks up to the next token. -/
def skipBlank : (bound : Nat) → Lexer → Lexer
  | 0, l => l
  | bound + 1, l =>
    let c := l.cursor.skipSpaces
    let c := if c.head == '#' then c.skip fun ch => !endsLine ch else c
    match c.lineBreak? with
    | none => { l with cursor := c }
    | some (_, c) => skipBlank bound { l with cursor := c, allowKey := l.allowKey || !l.inFlow }

/-- A token made of the next `n` characters. -/
def mark (l : Lexer) (n : Nat) (t : Token) : Lexer :=
  { l.push t with cursor := l.cursor.advance n }

/-- What stands between documents: no block and no key reaches across it. -/
def betweenDocuments (l : Lexer) : Except LexFault Lexer :=
  (l.unwind (-1)).dropKey.map fun l => { l with allowKey := false }

/-- The end of the text. -/
def finish (l : Lexer) : Except LexFault Lexer :=
  l.betweenDocuments.map fun l => { l.push .streamEnd with possible := [] }

/-- An opening bracket. -/
def openFlow (l : Lexer) (t : Token) : Except LexFault Lexer :=
  l.noteKey.map fun l => { l.mark 1 t with flowLevel := l.flowLevel + 1, allowKey := true }

/-- A closing bracket. -/
def closeFlow (l : Lexer) (t : Token) : Except LexFault Lexer :=
  l.dropKey.map fun l => { l.mark 1 t with flowLevel := l.flowLevel - 1, allowKey := false }

/-- A comma. -/
def flowEntry (l : Lexer) : Except LexFault Lexer :=
  l.dropKey.map fun l => { l.mark 1 .flowEntry with allowKey := true }

/-- In block style an indicator has to stand where a key may start, and may start a collection. -/
def blockStart (l : Lexer) (t : Token) : Except LexFault Lexer :=
  if l.inFlow then .ok l
  else if l.allowKey then .ok (((l.enter l.cursor.column).map (·.push t)).getD l)
  else .error .malformed

/-- The dash in front of a list item. -/
def blockEntry (l : Lexer) : Except LexFault Lexer := do
  let l ← l.blockStart .sequenceStart
  let l ← { l with allowKey := true }.dropKey
  return l.mark 1 .blockEntry

/-- The question mark in front of a key. -/
def keyMark (l : Lexer) : Except LexFault Lexer := do
  let l ← l.blockStart .mappingStart
  let l ← { l with allowKey := !l.inFlow }.dropKey
  return l.mark 1 .key

/-- The colon in front of a value.  If a key may have started on this line, it is one. -/
def valueMark (l : Lexer) : Except LexFault Lexer :=
  match l.possible.find? fun p => p.1 == l.flowLevel with
  | some (_, k) =>
    let l := { l with possible := l.possible.filter fun p => p.1 != l.flowLevel }
    let l := l.insertAt k.token .key
    let l :=
      if l.inFlow then l
      else ((l.enter k.column).map (·.insertAt k.token .mappingStart)).getD l
    .ok { l.mark 1 .value with allowKey := false }
  | none => do
    let l ← l.blockStart .mappingStart
    let l ← { l with allowKey := !l.inFlow }.dropKey
    return l.mark 1 .value

/-- A token that may start a key and is read by `read`. -/
def leaf (l : Lexer) (read : Cursor → Except LexFault (Token × Cursor)) :
    Except LexFault Lexer := do
  let l ← l.noteKey
  let (t, c) ← read l.cursor
  return { l.push t with cursor := c, allowKey := false }

/-- A plain scalar.  A key may start after one that ends with a line break. -/
def plain (l : Lexer) : Except LexFault Lexer := do
  let l ← l.noteKey
  let (text, c, broken) := plainScalar l.inFlow l.indent l.cursor
  return { l.push (.scalar true text) with cursor := c, allowKey := broken }

/-- A block scalar. -/
def block (l : Lexer) (folded : Bool) : Except LexFault Lexer := do
  let l ← { l with allowKey := true }.dropKey
  let (text, c) ← blockScalar folded l.indent l.cursor
  return { l.push (.scalar false text) with cursor := c }

/-- Whether a plain scalar can start here. -/
def atPlain (l : Lexer) : Bool :=
  let c := l.cursor
  !(isGap c.head || "-?:,[]\x7b\x7d#&*!|>'\"%@`".toList.contains c.head)
    || (!isGap (c.peek 1)
        && (c.head == '-' || (!l.inFlow && (c.head == '?' || c.head == ':'))))

/-- The next token and those that come with it. -/
def next (l : Lexer) : Except LexFault Lexer := do
  let c := l.cursor
  let l := if c.index == 0 && c.head == '\ufeff' then { l with cursor := c.step } else l
  let l ← (skipBlank l.cursor.rest.length l).dropStale
  let c := l.cursor
  let l := l.unwind c.column
  let ch := c.head
  let apart := isGap (c.peek 1)
  if ch == endMark then l.finish
  else if ch == '%' && c.column == 0 then
    let l ← l.betweenDocuments
    let (d, c) ← readDirective l.cursor
    return { l.push (.directive d) with cursor := c }
  else if c.column == 0 && c.atDocumentMark then
    return (← l.betweenDocuments).mark 3 (if ch == '-' then .documentStart else .documentEnd)
  else if ch == '[' then l.openFlow .flowSequenceStart
  else if ch == '\x7b' then l.openFlow .flowMappingStart
  else if ch == ']' then l.closeFlow .flowSequenceEnd
  else if ch == '\x7d' then l.closeFlow .flowMappingEnd
  else if ch == ',' then l.flowEntry
  else if ch == '-' && apart then l.blockEntry
  else if ch == '?' && (l.inFlow || apart) then l.keyMark
  else if ch == ':' && (l.inFlow || apart) then l.valueMark
  else if ch == '*' then l.leaf fun c => (anchorName c).map fun (n, c) => (.alias_ n, c)
  else if ch == '&' then l.leaf fun c => (anchorName c).map fun (n, c) => (.anchor n, c)
  else if ch == '!' then l.leaf fun c => (readTag c).map fun (t, c) => (.tag t, c)
  else if ch == '|' && !l.inFlow then l.block false
  else if ch == '>' && !l.inFlow then l.block true
  else if ch == '\'' then
    l.leaf fun c => (quotedScalar false c).map fun (t, c) => (.scalar false t, c)
  else if ch == '"' then
    l.leaf fun c => (quotedScalar true c).map fun (t, c) => (.scalar false t, c)
  else if l.atPlain then l.plain
  else throw .malformed

/-- The tokens in front of the first place where a key may have started, and a fault after them. -/
def stopWith (l : Lexer) (f : LexFault) : List Token :=
  let settled := l.possible.foldl (fun n p => min n p.2.token) l.tokens.size
  (l.tokens.toList.take settled) ++ [.fault f]

/-- The tokens from a state on.  Every token but the last takes a character. -/
def run : (bound : Nat) → Lexer → List Token
  | 0, l => l.stopWith .malformed
  | bound + 1, l =>
    match l.next with
    | .error f => l.stopWith f
    | .ok l =>
      if l.tokens.back? == some .streamEnd then l.tokens.toList
      else
        match l.dropStale with
        | .error f => l.stopWith f
        | .ok l => run bound l

end Lexer

/-- The tokens of a text. -/
def tokens (text : List Char) : List Token :=
  (Lexer.start text).run (text.length + 1)

end DashboardKit.Yaml
