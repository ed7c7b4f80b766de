import DashboardKit.Component.Catalog
import DashboardKit.Path.Basic

/-!
# Where artifacts go

The place of an artifact depends on the kind of component, the artifact and the component's name. A
statistics component goes next to the component that it belongs to: its page component has a
suffix, and its data route lies one level deeper.  A layout container always has the same name.
-/

set_option autoImplicit false

namespace DashboardKit

/-- The directories that artifacts go to and the extension of their files. -/
structure Layout where
  componentDir : Path
  apiDir : Path
  extension : Text
  deriving DecidableEq, Repr

/-- Why an artifact has no place. -/
inductive LayoutFault where
  /-- the kind of component has no data route -/
  | noApi
  | unknownKey (key : Text)
  deriving DecidableEq, Repr

namespace Layout

/-- The directory for page components where none is given. -/
def standardComponentDir : Text := "src/components/microlab"

/-- The directory for data routes where none is given. -/
def standardApiDir : Text := "src/app/api/microlab"

/-- The extension where none is given. -/
def standardExtension : Text := ".js"

/-- The name of every layout container. -/
def containerName : Text := "Dashtable"

/-- The name that a component of a kind goes by. -/
def effectiveName (kind : ComponentKind) (name : Text) : Text :=
  match kind with
  | .dashtable => containerName
  | _ => name

/-- The file name of a page component without its extension. -/
def fileStem (kind : ComponentKind) (name : Text) : Text :=
  match kind with
  | .stats => name ++ ("Statistics" : Text)
  | _ => name

/-- The directory of a data route. -/
def routeDir (l : Layout) (kind : ComponentKind) (name : Text) : Path :=
  let dir := l.apiDir.joinText (Text.lower name)
  match kind with
  | .stats => dir.joinText "statistics"
  | _ => dir

/-- The path of an artifact from the root of the project. -/
def place (l : Layout) (kind : ComponentKind) (key : ArtifactKey) (name : Text) :
    Except LayoutFault Path :=
  let name := effectiveName kind name
  match key, kind with
  | .component, _ => .ok (l.componentDir.joinText (fileStem kind name ++ l.extension))
  | .api, .dashtable => .error .noApi
  | .api, _ => .ok ((l.routeDir kind name).joinText (("route" : Text) ++ l.extension))

/-- The path of the artifact with a given name. -/
def placeOf (l : Layout) (kind : ComponentKind) (key name : Text) : Except LayoutFault Path :=
  match ArtifactKey.ofName? key with
  | some key => l.place kind key name
  | none => .error (.unknownKey key)

/-- The segments after the last one that is called `app`; all of them if none is. -/
def afterLastApp : List Text → List Text
  | [] => []
  | s :: rest =>
    if rest.contains "app" then afterLastApp rest
    else if s = ("app" : Text) then rest
    else s :: rest

/-- The address under which a data route is served. -/
def endpoint (l : Layout) (kind : ComponentKind) (name : Text) : Text :=
  ("/" : Text) ++ Text.join [Path.slash] (afterLastApp (l.routeDir kind name).parts)

/-- How other files import a page component: from the directory that holds the sources. -/
def importPath (l : Layout) (kind : ComponentKind) (name : Text) : Text :=
  let parts := l.componentDir.parts
  let parts := if parts.head? = some ("src" : Text) then parts.tail else parts
  ("@/" : Text) ++ Text.join [Path.slash] (parts ++ [fileStem kind (effectiveName kind name)])

end Layout

/-- The wording of a fault. -/
def LayoutFault.message : LayoutFault → Text
  | .noApi => "dashtable components have no api artifact"
  | .unknownKey key => ("Unknown artifact key: " : Text) ++ key

end DashboardKit
