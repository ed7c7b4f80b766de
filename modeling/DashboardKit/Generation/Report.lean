import DashboardKit.Artifact
import DashboardKit.Component.Catalog

/-!
# Reports

What came of generating a component.
-/

set_option autoImplicit false

namespace DashboardKit

/-- The outcome of generating one component. -/
structure Report where
  kind : ComponentKind
  name : Text
  /-- the artifacts that were written, and where -/
  written : Written
  /-- the artifacts whose template could not be read -/
  skipped : List Text
  warnings : List Text
  dependenciesChanged : Bool
  dependencyError : Option Text
  deriving DecidableEq, Repr

namespace Report

/-- The report before anything was done. -/
def start (kind : ComponentKind) (name : Text) : Report := ⟨kind, name, [], [], [], false, none⟩

/-- Whether anything was written. -/
def succeeded (r : Report) : Bool := !r.written.isEmpty

/-- Where an artifact was written. -/
def path? (r : Report) (key : ArtifactKey) : Option Path :=
  r.written.path? (Text.ofString key.name)

end Report

end DashboardKit
