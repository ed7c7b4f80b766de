import DashboardKit.Text.CodePoint

/-!
# Text: UTF-8

Files hold octets.  Decoding accepts exactly the well-formed UTF-8 sequences and otherwise names
the first octets that cannot belong to one; encoding accepts exactly the texts made of characters
and otherwise names the first run of lone surrogates.  Reading a file as text also turns every
`\r\n` and every other `\r` into `\n`.

Main statement: `encode_eq_ok_iff` says that a text is encoded exactly when it is made of
characters, and then octet by octet.
-/

set_option autoImplicit false

namespace DashboardKit.Utf8

/-- File contents. -/
abbrev Octets : Type := List UInt8

/-- Why octets are no UTF-8. -/
inductive Cause where
  /-- no character begins with this octet -/
  | start
  /-- an octet that cannot continue the character it stands in -/
  | continuation
  /-- the octets end inside a character -/
  | truncated
  deriving DecidableEq, Repr

/-- Octets that cannot be decoded: how many stand before them and how many are at fault. -/
structure DecodeFault where
  cause : Cause
  position : Nat
  octets : Octets
  deriving DecidableEq, Repr

/-- A run of surrogates that cannot be encoded. -/
structure EncodeFault where
  position : Nat
  first : CodePoint
  count : Nat
  deriving DecidableEq, Repr

/-! ## Encoding -/

/-- The octets of one character. -/
def encodeChar (c : Char) : Octets :=
  let n := c.toNat
  if n < 0x80 then [n.toUInt8]
  else if n < 0x800 then [(0xC0 + n / 64).toUInt8, (0x80 + n % 64).toUInt8]
  else if n < 0x10000 then
    [(0xE0 + n / 4096).toUInt8, (0x80 + n / 64 % 64).toUInt8, (0x80 + n % 64).toUInt8]
  else
    [(0xF0 + n / 262144).toUInt8, (0x80 + n / 4096 % 64).toUInt8, (0x80 + n / 64 % 64).toUInt8,
      (0x80 + n % 64).toUInt8]

/-- The octets of a text of characters. -/
def encodeChars (cs : List Char) : Octets := cs.flatMap encodeChar

/-- The octets of a text, if it holds no lone surrogate. -/
def encode? (t : Text) : Option Octets := (Text.chars? t).map encodeChars

/-- The first run of surrogates in a text of which `position` code points are already behind. -/
def firstFault (position : Nat) : Text → Option EncodeFault
  | [] => none
  | .scalar _ :: t => firstFault (position + 1) t
  | .surrogate n :: t =>
    some ⟨position, .surrogate n, 1 + (t.takeWhile CodePoint.isSurrogate).length⟩

/-- The octets of a text, or the first run of surrogates in it. -/
def encode (t : Text) : Except EncodeFault Octets :=
  match firstFault 0 t with
  | some fault => .error fault
  | none => .ok (encodeChars (t.filterMap CodePoint.char?))

theorem chars?_eq_none_iff_firstFault (t : Text) (n : Nat) :
    Text.chars? t = none ↔ (firstFault n t).isSome = true := by
  induction t generalizing n with
  | nil => simp [firstFault]
  | cons p t ih =>
    cases p with
    | scalar c => simp [Text.chars?_cons, CodePoint.char?, firstFault, ← ih (n + 1)]
    | surrogate k => simp [Text.chars?_cons, CodePoint.char?, firstFault]

theorem filterMap_char?_of_chars? {t : Text} {cs : List Char} (h : Text.chars? t = some cs) :
    t.filterMap CodePoint.char? = cs := by
  induction t generalizing cs with
  | nil => simpa using h
  | cons p t ih =>
    cases p with
    | surrogate k => simp [Text.chars?_cons, CodePoint.char?] at h
    | scalar c =>
      simp only [Text.chars?_cons, CodePoint.char?, Option.bind_some, Option.map_eq_some_iff] at h
      obtain ⟨r, hr, rfl⟩ := h
      simp [CodePoint.char?, ih hr]

/-- Encoding succeeds exactly on the texts of characters, and gives their octets. -/
theorem encode_eq_ok_iff {t : Text} {octets : Octets} :
    encode t = .ok octets ↔ encode? t = some octets := by
  have key := chars?_eq_none_iff_firstFault t 0
  cases hf : firstFault 0 t with
  | some fault =>
    have : Text.chars? t = none := key.2 (by simp [hf])
    simp [encode, encode?, hf, this]
  | none =>
    cases hc : Text.chars? t with
    | none => simp [hf, hc] at key
    | some cs => simp [encode, encode?, hf, hc, filterMap_char?_of_chars? hc]

/-! ## Decoding -/

/-- Whether an octet may continue a character. -/
def isTail (b : UInt8) : Bool := 0x80 ≤ b && b ≤ 0xBF

/-- What an octet that begins a character promises: the bits it contributes, how many octets
follow, and the least and greatest value of the first of them. -/
def lead? (b : UInt8) : Option (Nat × Nat × UInt8 × UInt8) :=
  if b < 0x80 then some (b.toNat, 0, 0x80, 0xBF)
  else if b < 0xC2 then none
  else if b < 0xE0 then some (b.toNat - 0xC0, 1, 0x80, 0xBF)
  else if b < 0xF0 then
    some (b.toNat - 0xE0, 2, if b = 0xE0 then 0xA0 else 0x80, if b = 0xED then 0x9F else 0xBF)
  else if b < 0xF5 then
    some (b.toNat - 0xF0, 3, if b = 0xF0 then 0x90 else 0x80, if b = 0xF4 then 0x8F else 0xBF)
  else none

/-- Reads the remaining octets of a character: its number and what follows, or the cause of a fault
and the octets of the character that were still good. -/
def tails : (count : Nat) → (low high : UInt8) → (number : Nat) → Octets →
    Except (Cause × Nat) (Nat × Octets)
  | 0, _, _, number, rest => .ok (number, rest)
  | _ + 1, _, _, _, [] => .error (.truncated, 0)
  | count + 1, low, high, number, b :: rest =>
    if low ≤ b ∧ b ≤ high then
      match tails count 0x80 0xBF (number * 64 + (b.toNat - 0x80)) rest with
      | .ok r => .ok r
      | .error (cause, good) => .error (cause, good + 1)
    else .error (.continuation, 0)

/-- Reads one character from the front. -/
def decodeChar (b : UInt8) (rest : Octets) : Except (Cause × Nat) (Nat × Octets) :=
  match lead? b with
  | none => .error (.start, 0)
  | some (bits, count, low, high) => tails count low high bits rest

theorem tails_length {count : Nat} {low high : UInt8} {number : Nat} {octets : Octets}
    {n : Nat} {rest : Octets} (h : tails count low high number octets = .ok (n, rest)) :
    rest.length ≤ octets.length := by
  induction count generalizing low high number octets with
  | zero => simp [tails] at h; simp [h.2]
  | succ count ih =>
    cases octets with
    | nil => simp [tails] at h
    | cons b octets =>
      simp only [tails] at h
      split at h
      · split at h
        · rename_i hr
          cases h
          have := ih hr
          simp only [List.length_cons]
          omega
        · simp at h
      · simp at h

theorem decodeChar_length {b : UInt8} {octets : Octets} {n : Nat} {rest : Octets}
    (h : decodeChar b octets = .ok (n, rest)) : rest.length ≤ octets.length := by
  unfold decodeChar at h
  split at h
  · simp at h
  · exact tails_length h

/-- The number of octets that follow a lead octet. -/
def tailCount (b : UInt8) : Nat := ((lead? b).map (·.2.1)).getD 0

/-- Decodes octets of which `position` are already behind. -/
def decodeFrom (position : Nat) (octets : Octets) : Except DecodeFault (List Char) :=
  match octets with
  | [] => .ok []
  | b :: octets =>
    match h : decodeChar b octets with
    | .error (cause, good) => .error ⟨cause, position, b :: octets.take good⟩
    | .ok (n, rest) =>
      (decodeFrom (position + 1 + tailCount b) rest).map (Char.ofNat n :: ·)
  termination_by octets.length
  decreasing_by
    have := decodeChar_length h
    simp only [List.length_cons]
    omega

/-- The characters that octets encode, or the first octets that encode none. -/
def decode (octets : Octets) : Except DecodeFault (List Char) := decodeFrom 0 octets

/-! ## Lines -/

/-- Every `\r\n` and every other `\r` becomes `\n`. -/
def unifyNewlines : List Char → List Char
  | [] => []
  | '\r' :: '\n' :: rest => '\n' :: unifyNewlines rest
  | '\r' :: rest => '\n' :: unifyNewlines rest
  | c :: rest => c :: unifyNewlines rest

/-- What a text file with these contents reads as. -/
def read (octets : Octets) : Except DecodeFault (List Char) :=
  (decode octets).map unifyNewlines

/-! ## Messages -/

/-- The wording of a cause. -/
def Cause.message : Cause → String
  | .start => "invalid start byte"
  | .continuation => "invalid continuation byte"
  | .truncated => "unexpected end of data"

end DashboardKit.Utf8
