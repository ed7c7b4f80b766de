import DashboardKit.Session

/-!
# Template stores

A template store finds templates as files of a directory: the name of a file is the identifier of
the template and the extension of the store.  A name may lead into directories below, but not up
and out.
-/

set_option autoImplicit false

namespace DashboardKit

/-- A directory of templates and how they are rendered. -/
structure TemplateStore where
  dir : Path
  delimiter : Text
  extension : Text
  deriving DecidableEq, Repr

namespace TemplateStore

/-- The store that settings describe. -/
def ofSettings (s : Settings) : TemplateStore := ⟨s.templatesDir, s.delimiter, s.fileExtension⟩

/-- The file name of a template. -/
def fileName (s : TemplateStore) (id : Text) : Text := id ++ s.extension

/-- The path that messages give for a template. -/
def location (s : TemplateStore) (id : Text) : Path := s.dir.joinText (s.fileName id)

/-- The path that a template is read from.  A name with a segment that leads up has none; empty
segments and single dots are passed over. -/
def source? (s : TemplateStore) (id : Text) : Option Path :=
  let segments := Text.splitOn Path.slash (s.fileName id)
  if segments.contains Path.dotDot then none
  else
    some ⟨s.dir.anchor,
      s.dir.segments ++ segments.filter fun t => t ≠ [] ∧ t ≠ Path.dot⟩

/-- Whether a path leads to a file, as far as the file system can tell. -/
def hasFile (p : Path) : Action Bool := do
  if Action.isUsable p then
    let s ← get
    return ((s.tree.isFile s.workingDir p).toOption).getD false
  else return false

/-- The text of a template. -/
def load (s : TemplateStore) (id : Text) : Action Text := do
  let missing : Failure := .template id (s.location id) (.missing (s.fileName id))
  match s.source? id with
  | none => throw missing
  | some path =>
    if !(← hasFile path) then throw missing
    let octets ← Action.readFile path
    match Utf8.read octets with
    | .ok cs => return Text.ofChars cs
    | .error fault => throw (.template id (s.location id) (.undecodable ⟨fault, octets⟩))

/-- Whether there is a file for a template. -/
def has (s : TemplateStore) (id : Text) : Action Bool := Action.isFile (s.location id)

/-- A template text rendered with values. -/
def render (s : TemplateStore) (t : Text) (context : Entries) : Except Failure Text :=
  (Template.render s.delimiter context t).mapError .ofRender

/-- A template rendered with values. -/
def renderTemplate (s : TemplateStore) (id : Text) (context : Entries) : Action Text := do
  Action.ofExcept (fun f => f) (s.render (← s.load id) context)

/-- The names of the files in a directory. -/
def fileNames (t : FileTree) (l : Location) : List Text :=
  (t.below l).filterMap fun e =>
    match e with
    | ([name], .file _) => some name
    | _ => none

/-- The identifier that a file name stands for, if it is the name of a template.  Without an
extension no name stands for an identifier but the empty one. -/
def idOf? (s : TemplateStore) (name : Text) : Option Text :=
  if Text.endsWith name s.extension && !name.contains Path.slash then
    some (if s.extension.isEmpty then [] else name.take (name.length - s.extension.length))
  else none

/-- The identifiers of all templates in the directory itself, in order. -/
def identifiers (s : TemplateStore) : Action (List Text) := do
  if !(← Action.isDir s.dir) then return []
  let session ← get
  match session.tree.locate session.workingDir s.dir with
  | .error _ => return []
  | .ok l => return ((fileNames session.tree l).filterMap s.idOf?).mergeSort Text.atMost

end TemplateStore

end DashboardKit
