/-!
# Text: code points and the texts made of them

Names, labels and file contents reach this library through formats whose escapes can spell half of
a surrogate pair.  Such a half is no character, yet it has to travel through every stage until a
file is written, where it is refused.  A text is therefore a list of code points, and a code point
is a character or a lone surrogate.

The facts worth knowing about a text are whether it is made of characters only (`Text.chars?`)
and how it is ordered (`CodePoint.value`).
-/

set_option autoImplicit false

namespace DashboardKit

/-- A Unicode code point: a character, or one of the 2048 surrogates on its own. -/
inductive CodePoint where
  /-- a Unicode scalar value -/
  | scalar (c : Char)
  /-- half of a surrogate pair, counted from U+D800 -/
  | surrogate (n : Fin 0x800)
  deriving DecidableEq, Repr, Inhabited

namespace CodePoint

/-- The number of a code point. -/
def value : CodePoint → Nat
  | scalar c => c.toNat
  | surrogate n => 0xD800 + n.val

/-- The code point with a given number; numbers past U+10FFFF give U+0000. -/
def ofNat (n : Nat) : CodePoint :=
  if h : 0xD800 ≤ n ∧ n < 0xE000 then .surrogate ⟨n - 0xD800, by omega⟩
  else .scalar (Char.ofNat n)

/-- The character, if the code point is one. -/
def char? : CodePoint → Option Char
  | scalar c => some c
  | surrogate _ => none

/-- Whether the code point is a surrogate. -/
def isSurrogate : CodePoint → Bool
  | scalar _ => false
  | surrogate _ => true

theorem char?_eq_none_iff (p : CodePoint) : p.char? = none ↔ p.isSurrogate = true := by
  cases p <;> simp [char?, isSurrogate]

instance : Coe Char CodePoint := ⟨scalar⟩

end CodePoint

/-- A text: any list of code points. -/
abbrev Text : Type := List CodePoint

namespace Text

/-- The text made of the given characters. -/
def ofChars (cs : List Char) : Text := cs.map .scalar

/-- The text of a string. -/
def ofString (s : String) : Text := ofChars s.toList

instance : Coe String Text := ⟨ofString⟩

/-- The characters of a text, provided it holds no lone surrogate. -/
def chars? (t : Text) : Option (List Char) := t.mapM CodePoint.char?

/-- The characters of a text, with U+FFFD in place of every lone surrogate. -/
def charsLossy (t : Text) : List Char := t.map fun p => p.char?.getD '\ufffd'

theorem ofChars_append (a b : List Char) : ofChars (a ++ b) = ofChars a ++ ofChars b := by
  simp [ofChars]

@[simp] theorem chars?_nil : chars? [] = some [] := rfl

theorem chars?_cons (p : CodePoint) (t : Text) :
    chars? (p :: t) = p.char?.bind fun c => (chars? t).map (c :: ·) := by
  cases h : p.char? with
  | none => simp [chars?, h]
  | some c =>
    simp only [chars?, List.mapM_cons, h]
    cases t.mapM CodePoint.char? <;> rfl

/-- Reading characters back from a text made of them gives them again. -/
theorem chars?_ofChars (cs : List Char) : chars? (ofChars cs) = some cs := by
  induction cs with
  | nil => rfl
  | cons c r ih => simpa [ofChars, chars?_cons, CodePoint.char?] using ih

/-- Texts are ordered by the numbers of their code points, a proper start coming first. -/
def before : Text → Text → Bool
  | [], [] => false
  | [], _ :: _ => true
  | _ :: _, [] => false
  | p :: r, q :: s => p.value < q.value || (p.value == q.value && before r s)

/-- Whether the first text comes no later than the second. -/
def atMost (a b : Text) : Bool := !before b a

end Text

end DashboardKit
