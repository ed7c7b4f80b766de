import DashboardKit.Text.CaseTable
import DashboardKit.Text.CodePoint

/-!
# Text: lower case

Lower-casing maps one code point at a time with two exceptions: the capital I with a dot becomes
two code points, and a capital sigma at the end of a word takes its final form.
-/

set_option autoImplicit false

namespace DashboardKit

namespace CodePoint

/-- Whether a number lies in one of the ranges. -/
def within (ranges : List (Nat × Nat)) (n : Nat) : Bool :=
  ranges.any fun r => r.1 ≤ n && n ≤ r.2

/-- Whether a code point takes part in case and is not skipped at the end of a word. -/
def isCased (p : CodePoint) : Bool := within Text.CaseTable.cased p.value

/-- Whether a code point is skipped when the end of a word is looked for. -/
def isCaseIgnorable (p : CodePoint) : Bool := within Text.CaseTable.ignorable p.value

/-- The number of the lower-case partner of a letter past U+007F. -/
def lowerPartner (n : Nat) : Nat :=
  match Text.CaseTable.lowerRuns.find? fun r =>
      r.1 ≤ n && n ≤ r.2.1 && (n - r.1) % r.2.2.1 == 0 with
  | some r => (n + r.2.2.2).toNat
  | none => n

/-- The lower case of a code point taken by itself. -/
def lower (p : CodePoint) : Text :=
  match p with
  | .surrogate n => [.surrogate n]
  | .scalar c =>
    if c.toNat < 0x80 then [.scalar c.toLower]
    else if c.toNat = 0x130 then ['i', '\u0307']
    else [ofNat (lowerPartner c.toNat)]

end CodePoint

namespace Text

/-- Whether a capital sigma between these two texts ends a word: a cased letter comes before it and
none comes after it, characters that are skipped apart. The text before is given last code point
first. -/
def sigmaIsFinal (beforeReversed after : Text) : Bool :=
  (match beforeReversed.dropWhile CodePoint.isCaseIgnorable with
    | p :: _ => p.isCased
    | [] => false)
  && (match after.dropWhile CodePoint.isCaseIgnorable with
    | p :: _ => !p.isCased
    | [] => true)

/-- Lower case of a text whose earlier part, last code point first, is `beforeReversed`. -/
def lowerAfter (beforeReversed : Text) : Text → Text
  | [] => []
  | p :: t =>
    (if p = .scalar 'Σ' then [.scalar (if sigmaIsFinal beforeReversed t then 'ς' else 'σ')]
      else p.lower)
    ++ lowerAfter (p :: beforeReversed) t

/-- A text in lower case. -/
def lower (t : Text) : Text := lowerAfter [] t

end Text

end DashboardKit
