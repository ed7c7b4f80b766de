import DashboardKit.Session

/-!
# Artifacts

An artifact is a text that belongs at a path of a project.  Artifacts are written one after the
other; the first that cannot be written ends this, and those before it stay.
-/

set_option autoImplicit false

namespace DashboardKit

/-- A text that is to be written, and the path it goes to from the root of the project. -/
structure Artifact where
  key : Text
  path : Path
  content : Text
  deriving DecidableEq, Repr

/-- Texts by key, in the order in which the keys came first. -/
abbrev Written : Type := List (Text × Path)

namespace Written

/-- Notes the path of a key: in place if the key is there, else at the end. -/
def note (key : Text) (path : Path) : Written → Written
  | [] => [(key, path)]
  | (k, p) :: rest => if k = key then (k, path) :: rest else (k, p) :: note key path rest

/-- The path of a key. -/
def path? (w : Written) (key : Text) : Option Path := (w.find? fun e => e.1 = key).map (·.2)

end Written

namespace Artifact

/-- The path of an artifact in a project. -/
def destination (root : Path) (a : Artifact) : Path := root.joinParts a.path.parts

/-- Runs an action on the files of an artifact; a failed file operation is a failure of the
artifact. -/
def writing {α : Type} (key : Text) (path : Path) (act : Action α) : Action α :=
  tryCatch act fun f =>
    match f with
    | .file fault => throw (.artifact key path fault)
    | f => throw f

/-- Writes an artifact and makes the directories above it.  It is told if `echo` holds. -/
def write (root : Path) (echo : Bool) (a : Artifact) : Action Path := do
  let target := a.destination root
  writing a.key target do
    let _ ← Action.ensureDir target.parent
    Action.writeText target a.content
  if echo then
    Action.printMarkup
      (("[green]✓[/green] " : Text) ++ a.key ++ (" created: " : Text)
        ++ Markup.escape (target.display root))
  return target

/-- Writes artifacts in order. -/
def writeAll (root : Path) (echo : Bool) (artifacts : List Artifact) : Action Written :=
  artifacts.foldlM
    (fun written a => do return Written.note a.key (← a.write root echo) written) []

end Artifact

end DashboardKit
