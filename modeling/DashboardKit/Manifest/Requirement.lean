import DashboardKit.Text.Search
import DashboardKit.Value.Basic

/-!
# Requirements on the manifest

The generated files need packages that the manifest of the project has to declare.  Merging adds
what is missing: runtime packages first, then development packages, each in the order of their
names.  A package that is declared in one of the two sections stays as it is.
-/

set_option autoImplicit false

namespace DashboardKit

/-- A package, the versions of it that fit, and the section of the manifest it belongs to. -/
structure Requirement where
  name : Text
  versions : Text
  section_ : Text
  deriving DecidableEq, Repr

namespace Requirement

/-- The section of packages that are needed at run time. -/
def runtime : Text := "dependencies"

/-- The section of packages that are needed for development. -/
def development : Text := "devDependencies"

/-- The sections in which a package counts as declared. -/
def sections : List Text := [runtime, development]

/-- The packages that the generated files need. -/
def standard : List Requirement := [
  ⟨"mqtt", "^5.3.5", runtime⟩,
  ⟨"mongoose", "^8.1.1", runtime⟩,
  ⟨"recharts", "^2.12.0", runtime⟩,
  ⟨"tailwindcss", "^4.0.0", development⟩,
  ⟨"autoprefixer", "^10.4.17", development⟩,
  ⟨"postcss", "^8.4.35", development⟩]

/-- The place of a section in the order; other sections come last. -/
def rank (r : Requirement) : Nat :=
  if r.section_ = runtime then 0 else if r.section_ = development then 1 else 2

/-- Whether the first requirement comes no later than the second. -/
def atMost (a b : Requirement) : Bool :=
  a.rank < b.rank || (a.rank == b.rank && Text.atMost a.name b.name)

/-- Requirements in the order in which they are merged. -/
def ordered (required : List Requirement) : List Requirement := required.mergeSort atMost

end Requirement

/-- The entries of a project's manifest. -/
abbrev Manifest : Type := Entries

namespace Manifest

/-- The entries of a section, if it is there and holds entries. -/
def section? (m : Manifest) (name : Text) : Option Entries :=
  match Entries.get? m name with
  | some (.map entries) => some entries
  | _ => none

/-- Whether a package is declared in one of the two sections. -/
def declares (m : Manifest) (package : Text) : Bool :=
  Requirement.sections.any fun s => ((section? m s).map (Entries.has · package)).getD false

/-- The manifest with a requirement added to its section. -/
def add (m : Manifest) (r : Requirement) : Manifest :=
  let entries := (section? m r.section_).getD []
  Entries.set m r.section_ (.map (Entries.set entries r.name (.text r.versions)))

/-- Adds the requirements that are not declared, in the given order. -/
def addMissing (m : Manifest) : List Requirement → Manifest × List Requirement
  | [] => (m, [])
  | r :: rest =>
    if declares m r.name then addMissing m rest
    else
      let (merged, added) := addMissing (add m r) rest
      (merged, r :: added)

/-- Merges requirements into a manifest.  Given are the new manifest and what was added. -/
def merge (m : Manifest) (required : List Requirement) : Manifest × List Requirement :=
  addMissing m (Requirement.ordered required)

end Manifest

end DashboardKit
