import DashboardKit.Value.Shown

/-!
# JSON: writing

A `Style` says whether everything outside ASCII is escaped and whether elements go on lines of
their own.  Writing can fail for a value that JSON has no form for, a key that cannot be turned
into a text, an integer past the digit limit, and a collection that contains itself; the fault is
the first one in reading order.
-/

set_option autoImplicit false

namespace DashboardKit.Json

/-- How a document is laid out. -/
structure Style where
  /-- escape every character outside ASCII -/
  asciiOnly : Bool
  /-- spaces per level, elements standing on their own lines; without it all is on one line -/
  indent : Option Nat
  deriving DecidableEq, Repr

namespace Style

/-- One line, ASCII only: the form of structured values inside generated files. -/
def compact : Style := ⟨true, none⟩

/-- Indented, ASCII only: the form of schemas inside generated files. -/
def embedded : Style := ⟨true, some 2⟩

/-- Indented, characters as they are: the form of files. -/
def file : Style := ⟨false, some 2⟩

end Style

/-- The kind of a value that has no JSON form. -/
inductive Foreign where
  | date
  | moment
  | bytes
  | set
  deriving DecidableEq, Repr

/-- Why a value cannot be written. -/
inductive WriteFault where
  /-- a value of a kind that JSON lacks -/
  | value (kind : Foreign)
  /-- a key of such a kind, and whether the document goes on one line -/
  | key (kind : Foreign) (oneLine : Bool)
  /-- an integer past the digit limit -/
  | digits
  /-- a collection that contains itself -/
  | cycle
  deriving DecidableEq, Repr

/-! ## Texts -/

/-- `\uXXXX` for a number below 65536. -/
def unicodeEscape (n : Nat) : List Char := '\\' :: 'u' :: Text.hex 4 n

/-- The two-character escapes. -/
def shortEscape? (p : CodePoint) : Option Char :=
  if p = .scalar '"' then some '"'
  else if p = .scalar '\\' then some '\\'
  else if p = .scalar '\n' then some 'n'
  else if p = .scalar '\r' then some 'r'
  else if p = .scalar '\t' then some 't'
  else if p = .scalar '\x08' then some 'b'
  else if p = .scalar '\x0c' then some 'f'
  else none

/-- A code point in escaped form: one escape up to U+FFFF, a surrogate pair past it. -/
def escaped (n : Nat) : List Char :=
  if n < 0x10000 then unicodeEscape n
  else
    unicodeEscape (0xD800 + (n - 0x10000) / 0x400) ++ unicodeEscape (0xDC00 + (n - 0x10000) % 0x400)

/-- One code point of a text. -/
def writePoint (asciiOnly : Bool) (p : CodePoint) : Text :=
  match shortEscape? p with
  | some c => ['\\', c]
  | none =>
    let n := p.value
    if n < 0x20 ∨ (asciiOnly = true ∧ 0x7F ≤ n) then Text.ofChars (escaped n) else [p]

/-- A text in quotes. -/
def writeText (asciiOnly : Bool) (t : Text) : Text :=
  ('"' : CodePoint) :: (t.flatMap (writePoint asciiOnly) ++ [('"' : CodePoint)])

/-! ## Atoms -/

/-- An integer, up to the digit limit. -/
def writeInt (n : Int) : Except WriteFault Text :=
  match showInt n with
  | .ok t => .ok t
  | .error _ => .error .digits

/-- A floating-point number. -/
def writeFloat (x : Binary64) : Text := Text.ofChars (FloatLayout.json.render x)

/-- An atom as a value. -/
def writeAtom (asciiOnly : Bool) : Atom → Except WriteFault Text
  | .null => .ok "null"
  | .bool b => .ok (if b then "true" else "false")
  | .int n => writeInt n
  | .float x => .ok (writeFloat x)
  | .text t => .ok (writeText asciiOnly t)
  | .date _ => .error (.value .date)
  | .moment _ => .error (.value .moment)
  | .bytes _ => .error (.value .bytes)

/-- The text that stands for an atom as a key. -/
def keyText (oneLine : Bool) : Atom → Except WriteFault Text
  | .null => .ok "null"
  | .bool b => .ok (if b then "true" else "false")
  | .int n => writeInt n
  | .float x => .ok (writeFloat x)
  | .text t => .ok t
  | .date _ => .error (.key .date oneLine)
  | .moment _ => .error (.key .moment oneLine)
  | .bytes _ => .error (.key .bytes oneLine)

/-! ## Collections -/

/-- What separates an element from what stands before it, at a depth. -/
def Style.break (s : Style) (depth : Nat) : Text :=
  match s.indent with
  | none => []
  | some n => ('\n' : CodePoint) :: List.replicate (n * depth) (' ' : CodePoint)

/-- What separates two elements at a depth. -/
def Style.comma (s : Style) (depth : Nat) : Text :=
  match s.indent with
  | none => ", "
  | some _ => (',' : CodePoint) :: s.break depth

/-- Elements with separators in between. -/
def Style.separated (s : Style) (depth : Nat) : List Text → Text
  | [] => []
  | [t] => t
  | t :: rest => t ++ s.comma depth ++ s.separated depth rest

/-- Elements at a depth between brackets that belong one level further out. -/
def Style.enclosed (s : Style) (opening closing : Char) (depth : Nat) (parts : List Text) : Text :=
  match parts with
  | [] => [(opening : CodePoint), (closing : CodePoint)]
  | _ =>
    (opening : CodePoint)
      :: (s.break (depth + 1) ++ s.separated (depth + 1) parts ++ s.break depth
          ++ [(closing : CodePoint)])

mutual

/-- A value at a depth. -/
def writeAt (s : Style) (depth : Nat) : Value → Except WriteFault Text
  | .atom a => writeAtom s.asciiOnly a
  | .list items => (writeItems s (depth + 1) items).map (s.enclosed '[' ']' depth)
  | .map entries => (writeEntries s (depth + 1) entries).map (s.enclosed '\x7b' '\x7d' depth)
  | .set _ => .error (.value .set)
  | .cycle => .error .cycle

/-- The elements of a list at a depth. -/
def writeItems (s : Style) (depth : Nat) : List Value → Except WriteFault (List Text)
  | [] => .ok []
  | v :: rest =>
    match writeAt s depth v with
    | .error e => .error e
    | .ok t => (writeItems s depth rest).map (t :: ·)

/-- The entries of a map at a depth. -/
def writeEntries (s : Style) (depth : Nat) : List (Atom × Value) → Except WriteFault (List Text)
  | [] => .ok []
  | (k, v) :: rest =>
    match keyText s.indent.isNone k with
    | .error e => .error e
    | .ok key =>
      match writeAt s depth v with
      | .error e => .error e
      | .ok t =>
        (writeEntries s depth rest).map ((writeText s.asciiOnly key ++ (": " : Text) ++ t) :: ·)

end

/-- A document in a style. -/
def write (s : Style) (v : Value) : Except WriteFault Text := writeAt s 0 v

/-! ## Messages -/

/-- The name of a kind. -/
def Foreign.name : Foreign → Text
  | .date => "date"
  | .moment => "datetime"
  | .bytes => "bytes"
  | .set => "set"

/-- The name of a kind with the family it belongs to. -/
def Foreign.fullName : Foreign → Text
  | .date => "datetime.date"
  | .moment => "datetime.datetime"
  | k => k.name

/-- The wording of a fault. -/
def WriteFault.message : WriteFault → Text
  | .value kind => ("Object of type " : Text) ++ kind.name ++ (" is not JSON serializable" : Text)
  | .key kind oneLine =>
    ("keys must be str, int, float, bool or None, not " : Text)
      ++ (if oneLine then kind.fullName else kind.name)
  | .digits => DigitOverflow.message
  | .cycle => "Circular reference detected"

end DashboardKit.Json
