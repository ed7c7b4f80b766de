import DashboardKit.Manifest.Requirement
import DashboardKit.Session

/-!
# Bringing the packages of a project in line

A reconciler adds missing requirements to the manifest of a project and then has the package
manager install them.  The manifest is only written if something was added, and the package manager
only called after that.  That it failed is remembered and told, but is no failure of the
reconciler.
-/

set_option autoImplicit false

namespace DashboardKit

/-- A reconciler and what it remembers of its last call. -/
structure Reconciler where
  installCommand : List Text
  runInstall : Bool
  installError : Option Text
  added : List Requirement
  deriving DecidableEq, Repr

/-- An action of something that remembers. -/
abbrev ActionOf (σ α : Type) : Type := ExceptT Failure (StateT σ (StateM Session)) α

namespace ActionOf

/-- An action that leaves the memory alone. -/
def lift {σ α : Type} (a : Action α) : ActionOf σ α :=
  ExceptT.mk fun memory session =>
    let (result, session) := a.outcome session
    ((result, memory), session)

/-- What is remembered. -/
def memory {σ : Type} : ActionOf σ σ := ExceptT.lift get

/-- Changes what is remembered. -/
def remember {σ : Type} (f : σ → σ) : ActionOf σ Unit := ExceptT.lift (modify f)

/-- Runs an action: what came of it, what is remembered, and the session afterwards. -/
def outcome {σ α : Type} (a : ActionOf σ α) (memory : σ) (s : Session) :
    Except Failure α × σ × Session :=
  let ((result, memory), s) := StateT.run (StateT.run (ExceptT.run a) memory) s
  (result, memory, s)

end ActionOf

namespace Reconciler

/-- A reconciler that was not called yet.  An empty command stands for the standard one. -/
def new (installCommand : List Text) (runInstall : Bool) : Reconciler where
  installCommand :=
    if installCommand.isEmpty then Settings.standardInstallCommand else installCommand
  runInstall := runInstall
  installError := none
  added := []

/-- The reconciler that settings describe. -/
def ofSettings (s : Settings) : Reconciler := new s.installCommand s.install

/-- The entries of the manifest at a path. -/
def readManifest (path : Path) : Action Manifest := do
  let v ← tryCatch (Action.loadJson path) fun f =>
    match f with
    | .file fault =>
      throw (.dependency
        (if fault.cause.code = 2 then .manifestMissing path fault
         else .manifestUnreadable path fault))
    | .json fault => throw (.dependency (.manifestMalformed path fault))
    | f => throw f
  match v with
  | .map entries => return entries
  | _ => throw (.dependency (.manifestShape path))

/-- Writes a manifest. -/
def writeManifest (path : Path) (m : Manifest) : Action Unit := do
  let save : Action Unit := do
    if let some fault := (← get).writeFault then throw (.file fault)
    Action.saveJson (.map m) path
  tryCatch save fun f =>
    match f with
    | .file fault => throw (.dependency (.manifestUnwritable path fault))
    | f => throw f

/-- Adds missing requirements to the manifest at a path; gives what was added. -/
def patchManifest (required : List Requirement) (path : Path) : Action (List Requirement) := do
  let (m, added) := (← readManifest path).merge required
  if added.isEmpty then
    Action.printMarkup "Dependencies already declared, nothing to install."
  else writeManifest path m
  return added

/-- Calls the package manager in a directory. -/
def install (command : List Text) (dir : Path) : Action Unit := do
  Action.print (("Running " : Text) ++ commandText command ++ (" ..." : Text))
  modify fun s => { s with installCalls := s.installCalls ++ [⟨command, dir⟩] }
  match (← get).install with
  | .exited status =>
    if status ≠ 0 then throw (.dependency (.install command (.exited status)))
  | .notStarted code wording =>
    throw (.dependency (.install command (.notStarted ⟨.other code wording, none⟩)))

/-- Calls the package manager for what was added; that it failed is told and remembered. -/
def installAdded (dir : Path) : ActionOf Reconciler Unit := do
  let r ← ActionOf.memory
  let failed ← ActionOf.lift (tryCatch (do install r.installCommand dir; return none) fun f =>
    match f with
    | .dependency reason => return some reason.message
    | f => throw f)
  if let some message := failed then
    ActionOf.remember fun r => { r with installError := some message }
    ActionOf.lift do
      Action.printWarning (("⚠️  Failed to install dependencies: " : Text) ++ message)
      Action.printWarning "   You may need to install dependencies manually"

/-- How a requirement that was added is told. -/
def addedLine (r : Requirement) : Text :=
  ("  + " : Text) ++ r.name ++ ("@" : Text) ++ r.versions ++ (" (" : Text) ++ r.section_
    ++ (")" : Text)

/-- Adds missing requirements to the manifest at a path and installs them; tells whether the
manifest changed. -/
def reconcile (required : List Requirement) (path : Path) : ActionOf Reconciler Bool := do
  ActionOf.remember fun r => { r with installError := none, added := [] }
  let added ← ActionOf.lift (patchManifest required path)
  if added.isEmpty then return false
  ActionOf.remember fun r => { r with added }
  ActionOf.lift (added.forM fun r => Action.print (addedLine r))
  if (← ActionOf.memory).runInstall then installAdded path.parent
  return true

end Reconciler

end DashboardKit
