import DashboardKit.Calendar
import DashboardKit.Decimal.Binary64

/-!
# Values: what documents hold

A document is a tree of lists, maps and sets over atoms.  Only an atom can be a key, so maps and
sets are keyed by atoms in the type itself.  Entries keep the order in which their keys came first,
and a later value for a key that is there takes the earlier one's place.

A document format with references can describe a collection that contains itself.  Such a place is
marked `cycle`; no writer accepts it.
-/

set_option autoImplicit false

namespace DashboardKit

/-- A value without parts. -/
inductive Atom where
  | null
  | bool (b : Bool)
  | int (n : Int)
  | float (x : Binary64)
  | text (t : Text)
  | date (d : Calendar.Date)
  | moment (m : Calendar.Moment)
  | bytes (octets : List UInt8)
  deriving DecidableEq, Repr

/-- A document value. -/
inductive Value where
  | atom (a : Atom)
  | list (items : List Value)
  | map (entries : List (Atom × Value))
  | set (members : List Atom)
  /-- a place where a collection contains itself -/
  | cycle
  deriving Repr

/-- The entries of a map, in the order of their keys' first appearance. -/
abbrev Entries : Type := List (Atom × Value)

namespace Atom

/-- The integer that a number or truth value equals. -/
def integer? : Atom → Option Int
  | bool b => some (if b then 1 else 0)
  | int n => some n
  | float x => x.toInt?
  | _ => none

/-- Whether two atoms are the same key.  Numbers and truth values are compared by value, so that
`true`, `1` and `1.0` are one key. -/
def sameKey : Atom → Atom → Bool
  | float x, float y => x.sameNumber y
  | moment x, moment y => x.same y
  | a, b =>
    match a.integer?, b.integer? with
    | some m, some n => m == n
    | some _, none => false
    | none, some _ => false
    | none, none => a == b

/-- Two texts are the same key only if they are equal. -/
theorem sameKey_text (s t : Text) : sameKey (text s) (text t) = true ↔ s = t := by
  simp [sameKey, integer?]

end Atom

namespace Value

instance : Inhabited Value := ⟨.atom .null⟩

/-- Nothing. -/
@[match_pattern] abbrev null : Value := .atom .null

/-- A truth value. -/
@[match_pattern] abbrev bool (b : Bool) : Value := .atom (.bool b)

/-- An integer. -/
@[match_pattern] abbrev int (n : Int) : Value := .atom (.int n)

/-- A floating-point number. -/
@[match_pattern] abbrev float (x : Binary64) : Value := .atom (.float x)

/-- A text. -/
@[match_pattern] abbrev text (t : Text) : Value := .atom (.text t)

/-- Octets. -/
@[match_pattern] abbrev bytes (octets : List UInt8) : Value := .atom (.bytes octets)

/-- Whether a value counts as present: nothing, false, zero and everything empty do not. -/
def isTruthy : Value → Bool
  | .atom .null => false
  | .atom (.bool b) => b
  | .atom (.int n) => n ≠ 0
  | .atom (.float x) => !x.isZero
  | .atom (.text t) => !t.isEmpty
  | .atom (.date _) => true
  | .atom (.moment _) => true
  | .atom (.bytes b) => !b.isEmpty
  | .list items => !items.isEmpty
  | .map entries => !entries.isEmpty
  | .set members => !members.isEmpty
  | .cycle => true

end Value

namespace Entries

/-- The value under a key. -/
def find? (key : Atom) : Entries → Option Value
  | [] => none
  | (k, v) :: rest => if k.sameKey key then some v else find? key rest

/-- The value under a text key. -/
def get? (entries : Entries) (key : Text) : Option Value := find? (.text key) entries

/-- Whether a key has a value. -/
def has (entries : Entries) (key : Text) : Bool := (get? entries key).isSome

/-- Puts a value under a key: in place if the key is there, else at the end. -/
def insert (key : Atom) (value : Value) : Entries → Entries
  | [] => [(key, value)]
  | (k, v) :: rest =>
    if k.sameKey key then (k, value) :: rest else (k, v) :: insert key value rest

/-- Puts a value under a text key. -/
def set (entries : Entries) (key : Text) (value : Value) : Entries :=
  insert (.text key) value entries

/-- The entries that come from writing pairs one after the other. -/
def ofPairs (pairs : List (Atom × Value)) : Entries :=
  pairs.foldl (fun es p => insert p.1 p.2 es) []

end Entries

end DashboardKit
