import DashboardKit.Text.Utf8
import DashboardKit.Yaml.Token.Scalars

/-!
# YAML: directives, anchors and tags

What may stand in front of a document or a node: directives, the names of anchors and aliases, and
tags with their escaped octets.
-/

set_option autoImplicit false

namespace DashboardKit.Yaml

/-- A name made of letters, digits, dashes and underlines. -/
def readName (c : Cursor) : Except LexFault (List Char × Cursor) :=
  let (word, c) := c.span isNameChar
  if word.isEmpty then .error .malformed else .ok (word, c)

/-- The name of an anchor or alias after its mark. -/
def anchorName (c : Cursor) : Except LexFault (List Char × Cursor) := do
  let (word, c) ← readName c.step
  if isGap c.head || "?:,]\x7d%@`".toList.contains c.head then return (word, c)
  else throw .malformed

/-! ## Tags -/

/-- The octets written as percent signs and two hexadecimal digits each. -/
def escapedOctets : (bound : Nat) → Cursor → Except LexFault (Utf8.Octets × Cursor)
  | 0, c => .ok ([], c)
  | bound + 1, c =>
    if c.head == '%' then
      match hexNumber? [c.peek 1, c.peek 2] with
      | none => .error .malformed
      | some n => (escapedOctets bound (c.advance 3)).map fun (os, c) => (n.toUInt8 :: os, c)
    else .ok ([], c)

/-- The characters of a tag from here on; escaped octets have to be the UTF-8 form of characters. -/
def uriRest : (bound : Nat) → Cursor → Except LexFault (List Char × Cursor)
  | 0, c => .ok ([], c)
  | bound + 1, c =>
    let (plain, c) := c.span fun ch => isUriChar ch && ch != '%'
    if c.head == '%' then do
      let (octets, c) ← escapedOctets c.rest.length c
      match Utf8.decode octets with
      | .error _ => throw .malformed
      | .ok cs => (uriRest bound c).map fun (rest, c) => (plain ++ cs ++ rest, c)
    else .ok (plain, c)

/-- The text of a tag, at least one character of it. -/
def readUri (c : Cursor) : Except LexFault (List Char × Cursor) := do
  if isUriChar c.head then uriRest (c.rest.length + 1) c else throw .malformed

/-- A tag handle: `!`, `!!` or `!name!`. -/
def tagHandle (c : Cursor) : Except LexFault (List Char × Cursor) :=
  if c.head != '!' then .error .malformed
  else if c.peek 1 == ' ' then .ok (['!'], c.step)
  else
    let (word, after) := c.step.span isNameChar
    if after.head == '!' then .ok ('!' :: (word ++ ['!']), after.step) else .error .malformed

/-- A tag after its exclamation mark. -/
def readTag (c : Cursor) : Except LexFault (TagText × Cursor) := do
  let (text, c) ←
    if c.peek 1 == '<' then do
      let (text, c) ← readUri (c.advance 2)
      if c.head == '>' then pure (TagText.verbatim text, c.step) else throw .malformed
    else if isGap (c.peek 1) then pure (TagText.verbatim ['!'], c.step)
    else do
      -- a second exclamation mark before the next blank ends a handle
      let word := (c.step.span fun ch => !endsWord ch).1
      let (handle, c) ← if word.contains '!' then tagHandle c else pure (['!'], c.step)
      let (suffix, c) ← readUri c
      pure (TagText.withHandle handle suffix, c)
  if endsWord c.head then return (text, c) else throw .malformed

/-! ## Directives -/

/-- The number in a version. -/
def versionNumber (c : Cursor) : Except LexFault (Nat × Cursor) :=
  let (ds, c) := c.span fun ch => '0' ≤ ch && ch ≤ '9'
  if ds.isEmpty then .error .malformed
  else .ok (ds.foldl (fun n d => n * 10 + (d.toNat - 48)) 0, c)

/-- A directive after its percent sign, to the end of its line. -/
def readDirective (c : Cursor) : Except LexFault (Directive × Cursor) := do
  let (word, c) ← readName c.step
  if !endsWord c.head then throw .malformed
  let (directive, c) ←
    if word == "YAML".toList then do
      let (major, c) ← versionNumber c.skipSpaces
      if c.head != '.' then throw .malformed
      let (minor, c) ← versionNumber c.step
      if !endsWord c.head then throw .malformed
      pure (Directive.version major minor, c)
    else if word == "TAG".toList then do
      let (handle, c) ← tagHandle c.skipSpaces
      if c.head != ' ' then throw .malformed
      let (start, c) ← readUri c.skipSpaces
      if !endsWord c.head then throw .malformed
      pure (Directive.tagHandle handle start, c)
    else pure (Directive.reserved, c.skip fun ch => !endsLine ch)
  return (directive, ← restOfLine c)

end DashboardKit.Yaml
