import DashboardKit.Text.Search

/-!
# Topics

A message topic may come with its slashes escaped and with angle brackets from a form.  Cleaning it
decodes the slashes and takes the brackets out.  Taking brackets out can join the halves of an
escape, so that slashes are decoded afterwards until none is escaped.
-/

set_option autoImplicit false

namespace DashboardKit.Topic

/-- How a slash is escaped. -/
def escapedSlash : Text := "&#x2F;"

/-- A topic with every escaped slash decoded, in one pass from the left. -/
def decodeSlashes (t : Text) : Text := Text.replace escapedSlash "/" t

/-- A topic without angle brackets. -/
def dropBrackets (t : Text) : Text := t.filter fun p => p ≠ .scalar '<' ∧ p ≠ .scalar '>'

/-- A topic whose slashes were decoded again and again, until none is escaped. -/
def decodeAll (t : Text) : Text :=
  if Text.includes escapedSlash t = true then decodeAll (decodeSlashes t) else t
  termination_by t.length
  decreasing_by
    rename_i hescape
    exact Text.length_replace_lt (by decide) hescape

/-- A topic ready for use. -/
def clean (t : Text) : Text := decodeAll (dropBrackets (decodeSlashes t))

end DashboardKit.Topic
