import DashboardKit.Text.CodePoint

/-!
# YAML: characters and positions

A reader of YAML has to know where it stands: blocks are nested by columns, and a key has to end on
the line it starts on.  A `Cursor` is the text that is left together with the number of characters
behind it, the line and the column.

Past the end a cursor shows U+0000, which no accepted text contains.
-/

set_option autoImplicit false

namespace DashboardKit.Yaml

/-! ## Character classes -/

/-- The characters that a text may be made of. -/
def isAllowed (c : Char) : Bool :=
  c == '\t' || c == '\n' || c == '\r' || (0x20 ≤ c.toNat && c.toNat ≤ 0x7E) || c.toNat == 0x85
    || (0xA0 ≤ c.toNat && c.toNat ≤ 0xD7FF) || (0xE000 ≤ c.toNat && c.toNat ≤ 0xFFFD)
    || 0x10000 ≤ c.toNat

/-- The mark past the end of the text. -/
def endMark : Char := Char.ofNat 0

/-- Whether a character ends a line. -/
def isBreak (c : Char) : Bool :=
  c == '\n' || c == '\r' || c == '\u0085' || c == '\u2028' || c == '\u2029'

/-- A line break or the end. -/
def endsLine (c : Char) : Bool := c == endMark || isBreak c

/-- A space, a line break or the end. -/
def endsWord (c : Char) : Bool := c == ' ' || endsLine c

/-- A space, a tab, a line break or the end. -/
def isGap (c : Char) : Bool := c == '\t' || endsWord c

/-- A space or a tab. -/
def isSpacing (c : Char) : Bool := c == ' ' || c == '\t'

/-- What the names of anchors, directives and tag handles are made of. -/
def isNameChar (c : Char) : Bool :=
  ('0' ≤ c && c ≤ '9') || ('A' ≤ c && c ≤ 'Z') || ('a' ≤ c && c ≤ 'z') || c == '-' || c == '_'

/-- What the text of a tag is made of. -/
def isUriChar (c : Char) : Bool :=
  isNameChar c || "-;/?:@&=+$,_.!~*'()[]%".toList.contains c

/-- The brackets and the comma of collections in flow style. -/
def isFlowMark (c : Char) : Bool := c == ',' || c == '[' || c == ']' || c == '\x7b' || c == '\x7d'

/-! ## Cursors -/

/-- A place in a text. -/
structure Cursor where
  rest : List Char
  index : Nat
  line : Nat
  column : Nat
  deriving Repr

namespace Cursor

/-- The start of a text. -/
def start (text : List Char) : Cursor := ⟨text, 0, 0, 0⟩

/-- The character `n` places ahead. -/
def peek (c : Cursor) (n : Nat) : Char := c.rest.getD n endMark

/-- The next character. -/
def head (c : Cursor) : Char := c.peek 0

/-- One character further.  A byte order mark takes no column. -/
def step (c : Cursor) : Cursor :=
  match c.rest with
  | [] => c
  | ch :: rest =>
    if ch == '\r' && rest.head? == some '\n' then
      ⟨rest, c.index + 1, c.line, c.column + 1⟩
    else if isBreak ch then ⟨rest, c.index + 1, c.line + 1, 0⟩
    else ⟨rest, c.index + 1, c.line, if ch == '\ufeff' then c.column else c.column + 1⟩

/-- `n` characters further. -/
def advance (c : Cursor) : Nat → Cursor
  | 0 => c
  | n + 1 => c.step.advance n

/-- The characters from here on that satisfy `p`, and the place after them. -/
def span (c : Cursor) (p : Char → Bool) : List Char × Cursor :=
  let taken := c.rest.takeWhile p
  (taken, c.advance taken.length)

/-- The place after the characters from here on that satisfy `p`. -/
def skip (c : Cursor) (p : Char → Bool) : Cursor := (c.span p).2

/-- The place after the spaces from here on. -/
def skipSpaces (c : Cursor) : Cursor := c.skip (· == ' ')

/-- Whether the text from here on begins with the given characters. -/
def startsWith (c : Cursor) (front : String) : Bool :=
  c.rest.take front.length == front.toList

/-- The line break here, if there is one, as it counts in a scalar, and the place after it. -/
def lineBreak? (c : Cursor) : Option (Char × Cursor) :=
  if c.head == '\u2028' || c.head == '\u2029' then some (c.head, c.step)
  else if isBreak c.head then
    some ('\n', if c.startsWith "\r\n" then c.advance 2 else c.step)
  else none

/-- Whether a document begins or ends here: three dashes or dots and a gap after them. -/
def atDocumentMark (c : Cursor) : Bool :=
  (c.startsWith "---" || c.startsWith "...") && isGap (c.peek 3)

end Cursor

end DashboardKit.Yaml
