import DashboardKit.Yaml.Token

/-!
# YAML: scalars

The three ways to write a scalar: plain, between quotes, or as a block of lines.  In each of them
line breaks are folded: a single break between two lines of text reads as a space, and of several
breaks the first is dropped.

Readers of repeated parts take a bound on the number of repetitions; every repetition takes at
least one character away, so that the number of characters left is enough.
-/

set_option autoImplicit false

namespace DashboardKit.Yaml

/-- The fold of a line break and the empty lines after it. -/
def foldedBreaks (first : Char) (others : List Char) : Text :=
  if first ≠ '\n' then Text.ofChars (first :: others)
  else if others.isEmpty then [.scalar ' ']
  else Text.ofChars others

/-! ## Quoted scalars -/

/-- What a backslash and a letter stand for. -/
def escapeLetter? : Char → Option Char
  | '0' => some (Char.ofNat 0)
  | 'a' => some '\x07'
  | 'b' => some '\x08'
  | 't' => some '\t'
  | '\t' => some '\t'
  | 'n' => some '\n'
  | 'v' => some '\x0b'
  | 'f' => some '\x0c'
  | 'r' => some '\r'
  | 'e' => some '\x1b'
  | ' ' => some ' '
  | '"' => some '"'
  | '\\' => some '\\'
  | '/' => some '/'
  | 'N' => some '\u0085'
  | '_' => some '\u00a0'
  | 'L' => some '\u2028'
  | 'P' => some '\u2029'
  | _ => none

/-- The number of hexadecimal digits after a backslash and a letter. -/
def escapeWidth? : Char → Option Nat
  | 'x' => some 2
  | 'u' => some 4
  | 'U' => some 8
  | _ => none

/-- The value of a hexadecimal digit. -/
def hexValue? (c : Char) : Option Nat :=
  if '0' ≤ c ∧ c ≤ '9' then some (c.toNat - 48)
  else if 'a' ≤ c ∧ c ≤ 'f' then some (c.toNat - 87)
  else if 'A' ≤ c ∧ c ≤ 'F' then some (c.toNat - 55)
  else none

/-- The number that hexadecimal digits stand for. -/
def hexNumber? (cs : List Char) : Option Nat :=
  (cs.mapM hexValue?).map fun ds => ds.foldl (fun n d => n * 16 + d) 0

/-- The line breaks from here on, with the blanks around them dropped.  A document mark at the start
of a line is a fault. -/
def quotedBreaks : (bound : Nat) → Cursor → Except LexFault (List Char × Cursor)
  | 0, c => .ok ([], c)
  | bound + 1, c =>
    if c.atDocumentMark then .error .malformed
    else
      let c := c.skip isSpacing
      match c.lineBreak? with
      | none => .ok ([], c)
      | some (b, c) => (quotedBreaks bound c).map fun (bs, c) => (b :: bs, c)

/-- The escape after a backslash. -/
def escape (c : Cursor) : Except LexFault (Text × Cursor) :=
  match escapeLetter? c.head, escapeWidth? c.head, c.lineBreak? with
  | some ch, _, _ => .ok ([.scalar ch], c.step)
  | none, some width, _ =>
    let c := c.step
    match hexNumber? ((List.range width).map c.peek) with
    | none => .error .malformed
    | some n =>
      if n ≤ 0x10FFFF then .ok ([.ofNat n], c.advance width) else .error (.noCodePoint n)
  | none, none, some (_, c) =>
    (quotedBreaks c.rest.length c).map fun (bs, c) => (Text.ofChars bs, c)
  | none, none, none => .error .malformed

/-- The text up to the next blank, line break or closing quote. -/
def quotedWord (double : Bool) : (bound : Nat) → Cursor → Except LexFault (Text × Cursor)
  | 0, c => .ok ([], c)
  | bound + 1, c =>
    let (plain, c) := c.span fun ch => ch != '\'' && ch != '"' && ch != '\\' && !isGap ch
    let more (t : Text) (c : Cursor) : Except LexFault (Text × Cursor) :=
      (quotedWord double bound c).map fun (rest, c) => (Text.ofChars plain ++ t ++ rest, c)
    if !double && c.startsWith "''" then more [.scalar '\''] (c.advance 2)
    else if (double && c.head == '\'') || (!double && (c.head == '"' || c.head == '\\')) then
      more [.scalar c.head] c.step
    else if double && c.head == '\\' then
      match escape c.step with
      | .error f => .error f
      | .ok (t, c) => more t c
    else .ok (Text.ofChars plain, c)

/-- The blanks and line breaks between two words. -/
def quotedGap (c : Cursor) : Except LexFault (Text × Cursor) :=
  let (blanks, c) := c.span isSpacing
  match c.lineBreak? with
  | some (first, c) =>
    (quotedBreaks c.rest.length c).map fun (others, c) => (foldedBreaks first others, c)
  | none => if c.head == endMark then .error .malformed else .ok (Text.ofChars blanks, c)

/-- The words and gaps up to the closing quote. -/
def quotedRest (double : Bool) (quote : Char) :
    (bound : Nat) → Cursor → Except LexFault (Text × Cursor)
  | 0, _ => .error .malformed
  | bound + 1, c =>
    if c.head == quote then .ok ([], c.step)
    else do
      let (gap, c) ← quotedGap c
      let (word, c) ← quotedWord double c.rest.length c
      let (rest, c) ← quotedRest double quote bound c
      return (gap ++ word ++ rest, c)

/-- A scalar between single or double quotes. -/
def quotedScalar (double : Bool) (c : Cursor) : Except LexFault (Text × Cursor) := do
  let quote := c.head
  let c := c.step
  let (word, c) ← quotedWord double c.rest.length c
  let (rest, c) ← quotedRest double quote (c.rest.length + 1) c
  return (word ++ rest, c)

/-! ## Plain scalars -/

/-- The line breaks in a plain scalar with the spaces around them dropped; nothing if a document
mark stands at the start of a line. -/
def plainBreaks : (bound : Nat) → Cursor → Option (List Char) × Cursor
  | 0, c => (some [], c)
  | bound + 1, c =>
    if c.atDocumentMark then (none, c)
    else
      let c := c.skipSpaces
      match c.lineBreak? with
      | none => (some [], c)
      | some (b, c) =>
        let (bs, c) := plainBreaks bound c
        (bs.map (b :: ·), c)

/-- What stands between two words of a plain scalar, the place after it, and whether it holds a line
break.  Nothing is given when the scalar ends here. -/
def plainGap (c : Cursor) : Text × Cursor × Bool :=
  let (blanks, c) := c.span (· == ' ')
  match c.lineBreak? with
  | none => (Text.ofChars blanks, c, false)
  | some (first, c) =>
    let (others, c) := plainBreaks c.rest.length c
    ((others.map (foldedBreaks first)).getD [], c, true)

/-- The number of characters up to the end of a word of a plain scalar. -/
def plainWordLength (inFlow : Bool) : List Char → Nat
  | [] => 0
  | ch :: rest =>
    let next := rest.headD endMark
    if isGap ch || (ch == ':' && (isGap next || (inFlow && isFlowMark next)))
        || (inFlow && (ch == '?' || isFlowMark ch)) then 0
    else plainWordLength inFlow rest + 1

/-- The words of a plain scalar, each after its gap, the place after them, and whether a line break
stands in front of that place. -/
def plainWords (inFlow : Bool) (indent : Int) :
    (bound : Nat) → (gap : Text) → (broken : Bool) → Cursor → Text × Cursor × Bool
  | 0, _, broken, c => ([], c, broken)
  | bound + 1, gap, broken, c =>
    let length := plainWordLength inFlow c.rest
    if c.head == '#' || length == 0 then ([], c, broken)
    else
      let word := Text.ofChars (c.rest.take length)
      let (next, c, broken) := plainGap (c.advance length)
      if next.isEmpty || c.head == '#' || (!inFlow && decide ((c.column : Int) < indent)) then
        (gap ++ word, c, broken)
      else
        let (rest, c, broken) := plainWords inFlow indent bound next broken c
        (gap ++ word ++ rest, c, broken)

/-- A plain scalar inside a block of the given indentation. -/
def plainScalar (inFlow : Bool) (indent : Int) (c : Cursor) : Text × Cursor × Bool :=
  plainWords inFlow (indent + 1) (c.rest.length + 1) [] false c

/-! ## Block scalars -/

/-- What becomes of the line breaks at the end of a block scalar. -/
inductive Chomping where
  | strip
  /-- one is kept -/
  | clip
  /-- all are kept -/
  | keep
  deriving DecidableEq, Repr

/-- The chomping that a sign asks for. -/
def chomping? (c : Char) : Option Chomping :=
  if c == '+' then some .keep else if c == '-' then some .strip else none

/-- The rest of a line that holds nothing but a comment, and its break. -/
def restOfLine (c : Cursor) : Except LexFault Cursor :=
  let c := c.skipSpaces
  let c := if c.head == '#' then c.skip fun ch => !endsLine ch else c
  if endsLine c.head then .ok ((c.lineBreak?.map Prod.snd).getD c) else .error .malformed

/-- An indentation indicator from one to nine. -/
def increment? (c : Char) : Except LexFault (Option Nat) :=
  if '0' ≤ c ∧ c ≤ '9' then
    if c == '0' then .error .malformed else .ok (some (c.toNat - 48))
  else .ok none

/-- The signs after the mark of a block scalar, in either order. -/
def blockHeader (c : Cursor) : Except LexFault ((Chomping × Option Nat) × Cursor) := do
  let (chomping, increment, c) ←
    match chomping? c.head with
    | some chomping =>
      let c := c.step
      let increment ← increment? c.head
      pure (chomping, increment, if increment.isSome then c.step else c)
    | none =>
      let increment ← increment? c.head
      let c := if increment.isSome then c.step else c
      match increment.isSome, chomping? c.head with
      | true, some chomping => pure (chomping, increment, c.step)
      | _, _ => pure (.clip, increment, c)
  if endsWord c.head then return ((chomping, increment), c) else throw .malformed

/-- The empty lines in front of a block scalar and the greatest column that spaces reach in them. -/
def blockIndentation : (bound : Nat) → Nat → Cursor → List Char × Nat × Cursor
  | 0, column, c => ([], column, c)
  | bound + 1, column, c =>
    if c.head == ' ' then blockIndentation bound (max column c.step.column) c.step
    else
      match c.lineBreak? with
      | none => ([], column, c)
      | some (b, c) =>
        let (bs, column, c) := blockIndentation bound column c
        (b :: bs, column, c)

/-- The spaces here, up to a column. -/
def skipSpacesTo (column : Nat) (c : Cursor) : Cursor :=
  c.advance (min (column - c.column) (c.span (· == ' ')).1.length)

/-- The empty lines between two lines of a block scalar. -/
def blockBreaks (indent : Nat) : (bound : Nat) → Cursor → List Char × Cursor
  | 0, c => ([], skipSpacesTo indent c)
  | bound + 1, c =>
    let c := skipSpacesTo indent c
    match c.lineBreak? with
    | none => ([], c)
    | some (b, c) =>
      let (bs, c) := blockBreaks indent bound c
      (b :: bs, c)

/-- The lines of a block scalar from here on; `breaks` are the empty lines in front.  Given are the
text without the last line break, that break, and the empty lines after it. -/
def blockLines (folded : Bool) (indent : Nat) :
    (bound : Nat) → (breaks : List Char) → Cursor → List Char × List Char × List Char × Cursor
  | 0, breaks, c => ([], [], breaks, c)
  | bound + 1, breaks, c =>
    let indented := isSpacing c.head
    let (line, c) := c.span fun ch => !endsLine ch
    let (lineBreak, c) :=
      match c.lineBreak? with
      | none => ([], c)
      | some (b, c) => ([b], c)
    let (next, c) := blockBreaks indent c.rest.length c
    let front := breaks ++ line
    if c.column == indent && c.head != endMark then
      let joint :=
        if folded && lineBreak == ['\n'] && !indented && !isSpacing c.head then
          if next.isEmpty then [' '] else []
        else lineBreak
      let (text, last, after, c) := blockLines folded indent bound next c
      (front ++ joint ++ text, last, after, c)
    else (front, lineBreak, next, c)

/-- A block scalar inside a block of the given indentation. -/
def blockScalar (folded : Bool) (blockIndent : Int) (c : Cursor) :
    Except LexFault (Text × Cursor) := do
  let ((chomping, increment), c) ← blockHeader c.step
  let c ← restOfLine c
  let least := max (blockIndent + 1).toNat 1
  let (breaks, indent, c) :=
    match increment with
    | some n =>
      let indent := least + n - 1
      let (breaks, c) := blockBreaks indent c.rest.length c
      (breaks, indent, c)
    | none =>
      let (breaks, column, c) := blockIndentation c.rest.length 0 c
      (breaks, max least column, c)
  let (text, last, after, c) :=
    if c.column == indent && c.head != endMark then
      blockLines folded indent (c.rest.length + 1) breaks c
    else ([], [], breaks, c)
  let tail :=
    match chomping with
    | .strip => []
    | .clip => last
    | .keep => last ++ after
  return (Text.ofChars (text ++ tail), c)

end DashboardKit.Yaml
