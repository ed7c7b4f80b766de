import DashboardKit.Component.Layout
import DashboardKit.Text.Case
import DashboardKit.Validation

/-!
# Settings

Where templates are read from and artifacts are written to.  Settings are made of fields that are
given one by one; a field that is not given has a standard value.  Some fields can also come from
variables of the environment, which explicit fields override.
-/

set_option autoImplicit false

namespace DashboardKit

/-- The settings of a run. -/
structure Settings where
  /-- the root of the project that artifacts are written to -/
  projectRoot : Path
  /-- the directory for page components, from the root -/
  componentDir : Text
  /-- the directory for data routes, from the root -/
  apiDir : Text
  templatesDir : Path
  /-- what stands on both sides of a placeholder -/
  delimiter : Text
  fileExtension : Text
  /-- the manifest of the project, from the root -/
  manifestName : Text
  /-- the command that installs packages, word by word -/
  installCommand : List Text
  /-- whether that command is run -/
  install : Bool
  deriving DecidableEq, Repr

/-- What settings are made from where a field is not given. -/
structure Surroundings where
  workingDir : Path
  packagedTemplates : Path
  deriving DecidableEq, Repr

namespace Settings

/-- The delimiter where none is given. -/
def standardDelimiter : Text := "$&"

/-- The manifest where none is given. -/
def standardManifestName : Text := "package.json"

/-- The command that installs packages where none is given. -/
def standardInstallCommand : List Text := ["npm", "install"]

/-- The directory that page components are written to. -/
def componentPath (s : Settings) : Path := s.projectRoot.joinText s.componentDir

/-- The directory that data routes are written to. -/
def apiPath (s : Settings) : Path := s.projectRoot.joinText s.apiDir

/-- The path of the manifest. -/
def manifestPath (s : Settings) : Path := s.projectRoot.joinText s.manifestName

/-- Where artifacts go, from the root of the project. -/
def layout (s : Settings) : Layout :=
  ⟨Path.ofText s.componentDir, Path.ofText s.apiDir, s.fileExtension⟩

/-- A path, which has to be given as a text. -/
def path : Value → Except ProblemKind Path
  | .text t => .ok (Path.ofText t)
  | _ => .error .pathType

/-- A field that is read if it is given. -/
def field {α : Type} (fields : Entries) (name : Text) (standard : α)
    (read : Value → Except ProblemKind α) : Except (List Problem) α :=
  match fields.get? name with
  | none => .ok standard
  | some v => (read v).mapError fun e => [⟨[name], e⟩]

/-- Settings made of fields, or the problems with the fields. -/
def ofFields (around : Surroundings) (fields : Entries) : Except (List Problem) Settings :=
  let projectRoot := field fields "project_root" around.workingDir path
  let componentDir := field fields "component_dir" Layout.standardComponentDir Validation.text
  let apiDir := field fields "api_dir" Layout.standardApiDir Validation.text
  let templatesDir := field fields "templates_dir" around.packagedTemplates path
  let delimiter := field fields "delimiter" standardDelimiter Validation.nonemptyText
  let fileExtension := field fields "file_extension" Layout.standardExtension Validation.text
  let manifestName := field fields "manifest_name" standardManifestName Validation.text
  let installCommand : Except (List Problem) (List Text) :=
    match fields.get? "install_command" with
    | none => .ok standardInstallCommand
    | some v => Validation.texts "install_command" v
  let install := field fields "install" true Validation.bool
  match projectRoot, componentDir, apiDir, templatesDir, delimiter, fileExtension, manifestName,
      installCommand, install with
  | .ok projectRoot, .ok componentDir, .ok apiDir, .ok templatesDir, .ok delimiter,
      .ok fileExtension, .ok manifestName, .ok installCommand, .ok install =>
    .ok { projectRoot, componentDir, apiDir, templatesDir, delimiter, fileExtension, manifestName,
          installCommand, install }
  | _, _, _, _, _, _, _, _, _ =>
    .error
      (Validation.problemsOf projectRoot
        ++ Validation.problemsOf componentDir
        ++ Validation.problemsOf apiDir
        ++ Validation.problemsOf templatesDir
        ++ Validation.problemsOf delimiter
        ++ Validation.problemsOf fileExtension
        ++ Validation.problemsOf manifestName
        ++ Validation.problemsOf installCommand
        ++ Validation.problemsOf install)

/-- The variables that stand for fields, and the fields. -/
def fieldVariables : List (Text × Text) := [
  ("MICROLAB_PROJECT_ROOT", "project_root"),
  ("MICROLAB_TEMPLATES_DIR", "templates_dir"),
  ("MICROLAB_COMPONENT_DIR", "component_dir"),
  ("MICROLAB_API_DIR", "api_dir"),
  ("MICROLAB_DELIMITER", "delimiter")]

/-- The fields that variables of the environment give; an empty variable gives none. -/
def environmentFields (envVar : Text → Option Text) : Entries :=
  let given := fieldVariables.filterMap fun (name, field) =>
    match envVar name with
    | none => none
    | some t => if t.isEmpty then none else some (Atom.text field, Value.text t)
  let skip := Text.lower ((envVar "MICROLAB_SKIP_INSTALL").getD [])
  given ++ (if [("1" : Text), "true", "yes"].contains skip then
    [(Atom.text "install", Value.bool false)] else [])

/-- The fields of the environment with explicit fields over them; nothing overrides nothing. -/
def overriddenFields (envVar : Text → Option Text) (overrides : Entries) : Entries :=
  overrides.foldl
    (fun fields (key, value) =>
      match value with
      | .null => fields
      | _ => Entries.insert key value fields)
    (environmentFields envVar)

/-- Settings made of the environment and explicit fields. -/
def ofEnvironment (around : Surroundings) (envVar : Text → Option Text) (overrides : Entries) :
    Except (List Problem) Settings :=
  ofFields around (overriddenFields envVar overrides)

end Settings

end DashboardKit
