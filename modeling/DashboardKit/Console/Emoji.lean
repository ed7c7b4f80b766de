import DashboardKit.Console.EmojiTable
import DashboardKit.Text.Case
import DashboardKit.Text.Classes
import DashboardKit.Text.Search

/-!
# Console: emoji codes

A name between two colons stands for an emoji if it is the name of one, in any case.  The name may
end in a wish for the coloured or the plain form, which a variation selector after the emoji
expresses.
-/

set_option autoImplicit false

namespace DashboardKit.Emoji

/-- Names with what they stand for, out of texts in turn. -/
def pairs : List Text → List (Text × Text)
  | name :: emoji :: rest => (name, emoji) :: pairs rest
  | _ => []

/-- The emoji with a name in lower case. -/
def named? (name : Text) : Option Text :=
  rows.findSome? fun row => (pairs (Text.splitOn ' ' (Text.ofString row))).lookup name

/-- The forms that can be asked for behind a name, with their variation selectors. -/
def forms : List (Text × CodePoint) := [("-emoji", '\ufe0f'), ("-text", '\ufe0e')]

/-- What the inside of a code stands for. -/
def meant? (inner : Text) : Option Text :=
  match forms.find? fun f => Text.endsWith inner f.1 with
  | some (ending, selector) =>
    (named? (Text.lower (inner.take (inner.length - ending.length)))).map (· ++ [selector])
  | none => named? (Text.lower inner)

/-- The colon around a name. -/
def colon : CodePoint := .scalar ':'

/-- The inside of the code after a colon, and what comes after the code.  A code holds neither
colons nor blanks. -/
def inside? (t : Text) : Option (Text × Text) :=
  let inner := t.takeWhile fun p => p ≠ colon && !p.isBlank
  match t.dropWhile fun p => p ≠ colon && !p.isBlank with
  | p :: after => if p = colon then some (inner, after) else none
  | [] => none

theorem length_lt_of_inside? {t inner after : Text} (h : inside? t = some (inner, after)) :
    after.length < t.length := by
  have hle := (List.dropWhile_suffix (l := t) fun p => p ≠ colon && !p.isBlank).length_le
  simp only [inside?] at h
  split at h
  · rename_i p rest hrest
    split at h
    · simp only [Option.some.injEq, Prod.mk.injEq] at h
      rw [hrest, h.2] at hle
      simp only [List.length_cons] at hle
      omega
    · simp at h
  · simp at h

/-- A text with emoji in place of their codes.  A code without an emoji stays, and its second colon
does not begin another. -/
def replaceCodes (t : Text) : Text :=
  match t with
  | [] => []
  | p :: t =>
    if p = colon then
      match hcode : inside? t with
      | some (inner, after) =>
        have : after.length < t.length := length_lt_of_inside? hcode
        (meant? inner).getD (colon :: (inner ++ [colon])) ++ replaceCodes after
      | none => p :: replaceCodes t
    else p :: replaceCodes t
  termination_by t.length
  decreasing_by
    · simp only [List.length_cons]
      omega
    · simp
    · simp

end DashboardKit.Emoji
