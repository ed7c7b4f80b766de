import DashboardKit.Yaml.Cursor

/-!
# YAML: tokens

The words of a YAML text.  Besides the marks that are written there are tokens without a text of
their own: a block collection starts and ends where the indentation changes, and a key is announced
before it although only the colon after it gives it away.
-/

set_option autoImplicit false

namespace DashboardKit.Yaml

/-- Why a text cannot be cut into tokens. -/
inductive LexFault where
  | malformed
  /-- an escape in a quoted scalar with a number past the last code point -/
  | noCodePoint (n : Nat)
  deriving DecidableEq, Repr

/-- A tag as it is written: as a whole, or with a handle that stands for its start.  A lone
exclamation mark is a whole tag. -/
inductive TagText where
  | verbatim (uri : List Char)
  | withHandle (handle suffix : List Char)
  deriving DecidableEq, Repr

/-- A directive in front of a document. -/
inductive Directive where
  | version (major minor : Nat)
  | tagHandle (handle start : List Char)
  | reserved
  deriving DecidableEq, Repr

/-- The tokens. -/
inductive Token where
  | directive (d : Directive)
  | documentStart
  | documentEnd
  | sequenceStart
  | mappingStart
  | blockEnd
  | flowSequenceStart
  | flowSequenceEnd
  | flowMappingStart
  | flowMappingEnd
  | flowEntry
  | blockEntry
  | key
  | value
  | alias_ (name : List Char)
  | anchor (name : List Char)
  | tag (text : TagText)
  /-- a scalar, and whether it is written without quotes or block mark -/
  | scalar (plain : Bool) (text : Text)
  | streamEnd
  /-- the place from which on the text cannot be cut into tokens -/
  | fault (f : LexFault)
  deriving DecidableEq, Repr

end DashboardKit.Yaml
