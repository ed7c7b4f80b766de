import DashboardKit.Template.Packaged.ChartApi
import DashboardKit.Template.Packaged.ChartComponent
import DashboardKit.Template.Packaged.DashtableComponent
import DashboardKit.Template.Packaged.DeviationApi
import DashboardKit.Template.Packaged.DeviationComponent
import DashboardKit.Template.Packaged.StateApi
import DashboardKit.Template.Packaged.StateComponent
import DashboardKit.Template.Packaged.StatsApi
import DashboardKit.Template.Packaged.StatsComponent
import DashboardKit.Template.Packaged.ToggleApi
import DashboardKit.Template.Packaged.ToggleComponent
import DashboardKit.Component.Catalog
import DashboardKit.FileTree.Basic

/-!
# The packaged templates

One template for every artifact of every kind of component, as the files that a template directory
holds.
-/

set_option autoImplicit false

namespace DashboardKit.Template.Packaged

/-- The text of lines, each but the last followed by a line break. -/
def linesText (lines : List String) : List Char :=
  (lines.map String.toList).intersperse ['\n'] |>.flatten

/-- The lines of the packaged template for an artifact; a layout container has no data route. -/
def lines : ComponentKind → ArtifactKey → List String
  | .chart, .api => chartApi
  | .chart, .component => chartComponent
  | .dashtable, .component => dashtableComponent
  | .deviation, .api => deviationApi
  | .deviation, .component => deviationComponent
  | .state, .api => stateApi
  | .state, .component => stateComponent
  | .stats, .api => statsApi
  | .stats, .component => statsComponent
  | .toggle, .api => toggleApi
  | .toggle, .component => toggleComponent
  | .dashtable, .api => []

/-- The text of the packaged template for an artifact. -/
def text (kind : ComponentKind) (key : ArtifactKey) : List Char := linesText (lines kind key)

/-- The names of the packaged template files and their texts. -/
def files : List (Text × List Char) :=
  ComponentKind.all.flatMap fun kind =>
    kind.artifacts.map fun key => (kind.templateId key ++ (".js" : Text), text kind key)

/-- A tree with the packaged templates in a directory. -/
def placed (t : FileTree) (dir : Location) : FileTree :=
  files.foldl (fun t f => t.withFile (dir ++ [f.1]) (Utf8.encodeChars f.2)) t

end DashboardKit.Template.Packaged
