import DashboardKit.Text.CodePoint

/-!
# Text: lines

A text is cut into lines at every code point that ends one; a carriage return and the line feed
after it end a line together.  Nothing begins after the last end of a line, so a text that ends
with one has no empty line at its end.
-/

set_option autoImplicit false

namespace DashboardKit

/-- Whether a code point ends a line: the feeds and returns, the separators of files, groups and
records, the next-line control, and the separators of lines and paragraphs. -/
def CodePoint.endsLine (p : CodePoint) : Bool :=
  let n := p.value
  (0xA ≤ n && n ≤ 0xD) || (0x1C ≤ n && n ≤ 0x1E) || n == 0x85 || n == 0x2028 || n == 0x2029

namespace Text

/-- A code point in front of the first of some lines. -/
def consLine (p : CodePoint) : List Text → List Text
  | [] => [[p]]
  | line :: rest => (p :: line) :: rest

/-- The lines of a text, without what ends them. -/
def lines : Text → List Text
  | [] => []
  | p :: t =>
    if p = .scalar '\r' ∧ t.head? = some (.scalar '\n') then lines t
    else if p.endsLine then [] :: lines t
    else consLine p (lines t)

end Text

end DashboardKit
