import DashboardKit.Text.Utf8

/-!
# Text: names of files

A file system knows names as octets, which need not be UTF-8.  In a text an octet that belongs to
no character appears as an escape, one of the surrogates from U+DC80 to U+DCFF; the other
surrogates stand for nothing that a name could hold.  Escapes may spell the octets of a character,
so that two texts can name the same file: `spelled` gives the text that the file system itself has
for a name.
-/

set_option autoImplicit false

namespace DashboardKit

/-- The octet that an escape stands for. -/
def CodePoint.escaped? : CodePoint → Option UInt8
  | .scalar _ => none
  | .surrogate n => if 0x480 ≤ n.val ∧ n.val < 0x500 then some (n.val - 0x400).toUInt8 else none

namespace FileName

open Utf8 (Octets)

/-- The escape of an octet. -/
def escape (b : UInt8) : CodePoint := .ofNat (0xDC00 + b.toNat)

/-- The first code point of a text that no name can hold, with the surrogates behind it; so many
code points as `position` says are already behind. -/
def firstFault (position : Nat) : Text → Option Utf8.EncodeFault
  | [] => none
  | p :: t =>
    if p.isSurrogate && p.escaped?.isNone then
      some ⟨position, p, 1 + (t.takeWhile CodePoint.isSurrogate).length⟩
    else firstFault (position + 1) t

/-- The octets of a code point in a name. -/
def pointOctets (p : CodePoint) : Octets :=
  match p.escaped? with
  | some b => [b]
  | none => Utf8.encodeChar (p.char?.getD '\ufffd')

/-- The octets of a name. -/
def octets (t : Text) : Octets := t.flatMap pointOctets

/-- The text of the octets of a name. -/
def ofOctets (octets : Octets) : Text :=
  match octets with
  | [] => []
  | b :: octets =>
    match _ : Utf8.decodeChar b octets with
    | .ok (n, rest) => .scalar (Char.ofNat n) :: ofOctets rest
    | .error _ => escape b :: ofOctets octets
  termination_by octets.length
  decreasing_by
    · have := Utf8.decodeChar_length ‹_›
      simp only [List.length_cons]
      omega
    · simp only [List.length_cons]
      omega

/-- The text that the file system has for a name; a name without escapes is spelled as it is. -/
def spelled (t : Text) : Text :=
  if t.any fun p => p.escaped?.isSome then ofOctets (octets t) else t

end FileName

end DashboardKit
