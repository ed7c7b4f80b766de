import DashboardKit.Text.Printable

/-!
# Text: quoted form

The form in which messages and printed collections show a text: between single quotes, or between
double quotes when the text holds a single quote and no double one.  The quote, the backslash and
everything unprintable is escaped, with the shortest of two, four or eight hexadecimal digits.
-/

set_option autoImplicit false

namespace DashboardKit.Text

/-- A hexadecimal digit in lower case. -/
def hexDigit (n : Nat) : Char :=
  if n < 10 then Char.ofNat (48 + n) else Char.ofNat (87 + n)

/-- A number in lower-case hexadecimal with exactly `width` digits. -/
def hex : (width : Nat) → Nat → List Char
  | 0, _ => []
  | w + 1, n => hex w (n / 16) ++ [hexDigit (n % 16)]

/-- One code point inside quotes. -/
def quotedPoint (quote : Char) (p : CodePoint) : List Char :=
  if p = .scalar quote || p = .scalar '\\' then ['\\', p.char?.getD quote]
  else if p = .scalar '\n' then ['\\', 'n']
  else if p = .scalar '\r' then ['\\', 'r']
  else if p = .scalar '\t' then ['\\', 't']
  else
    match p.isPrintable, p.char? with
    | true, some c => [c]
    | _, _ =>
      if p.value < 0x100 then '\\' :: 'x' :: hex 2 p.value
      else if p.value < 0x10000 then '\\' :: 'u' :: hex 4 p.value
      else '\\' :: 'U' :: hex 8 p.value

/-- The quote that goes around a text. -/
def quoteFor (t : Text) : Char :=
  if t.any (· = .scalar '\'') && t.all (· ≠ .scalar '"') then '"' else '\''

/-- The quoted form of a text. -/
def quoted (t : Text) : Text :=
  let q := quoteFor t
  ofChars (q :: (t.flatMap (quotedPoint q) ++ [q]))

end DashboardKit.Text
