import DashboardKit.Text.Case
import DashboardKit.Text.Classes
import DashboardKit.Text.Search

/-!
# The catalog of components

The kinds of component that can be generated, and the artifacts that each of them consists of with
the templates they are made from.
-/

set_option autoImplicit false

namespace DashboardKit

/-- The kinds of component. -/
inductive ComponentKind where
  | state
  | deviation
  | stats
  | toggle
  | chart
  /-- the container that the others are laid out in -/
  | dashtable
  deriving DecidableEq, Repr

/-- The files that a component can consist of. -/
inductive ArtifactKey where
  /-- the part shown on the page -/
  | component
  /-- the route that serves its data -/
  | api
  deriving DecidableEq, Repr

namespace ArtifactKey

/-- The name of an artifact key. -/
def name : ArtifactKey → String
  | component => "component"
  | api => "api"

/-- The key with a given name. -/
def ofName? (t : Text) : Option ArtifactKey :=
  [component, api].find? fun k => Text.ofString k.name = t

end ArtifactKey

namespace ComponentKind

/-- All kinds, in the order in which they are offered. -/
def all : List ComponentKind := [state, deviation, stats, toggle, chart, dashtable]

/-- The name of a kind. -/
def name : ComponentKind → String
  | state => "state"
  | deviation => "deviation"
  | stats => "stats"
  | toggle => "toggle"
  | chart => "chart"
  | dashtable => "dashtable"

/-- What a kind is for. -/
def description : ComponentKind → String
  | state => "State Component (for real-time values)"
  | deviation => "Deviation Component (for deviation control)"
  | stats => "Statistics Component (watching stats)"
  | toggle => "Toggle Component (for boolean controls)"
  | chart => "Chart Component (for time-series data)"
  | dashtable => "Dashtable Container (for layout)"

/-- Whether a component of this kind is described by a config file. -/
def needsConfig : ComponentKind → Bool
  | dashtable => false
  | _ => true

/-- The artifacts of a kind in the order in which they are generated. -/
def artifacts : ComponentKind → List ArtifactKey
  | dashtable => [.component]
  | _ => [.component, .api]

/-- The name of the template that an artifact is made from. -/
def templateId (kind : ComponentKind) (key : ArtifactKey) : Text :=
  Text.ofString (kind.name ++ "-" ++ key.name)

/-- The kind with a given name, blanks around it and case apart. -/
def ofText? (t : Text) : Option ComponentKind :=
  let word := Text.lower (Text.trim CodePoint.isBlank t)
  all.find? fun k => Text.ofString k.name = word

/-- Every kind is among all. -/
theorem mem_all (k : ComponentKind) : k ∈ all := by cases k <;> decide

theorem component_mem_artifacts (k : ComponentKind) : .component ∈ k.artifacts := by
  cases k <;> decide

/-- Everything but a layout container has a data route. -/
theorem api_mem_artifacts {k : ComponentKind} (h : k ≠ .dashtable) : .api ∈ k.artifacts := by
  cases k with
  | dashtable => exact absurd rfl h
  | _ => decide

/-- No artifact is generated twice. -/
theorem nodup_artifacts (k : ComponentKind) : k.artifacts.Nodup := by cases k <;> decide

end ComponentKind

end DashboardKit
