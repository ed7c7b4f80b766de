import DashboardKit.Proofs.Generation.Failing
import DashboardKit.Proofs.Session.Refusing

/-!
# Artifacts that cannot be written

An artifact is refused where no file with its octets can be made.  Directories may have been made on
the way, and a disk that broke off has left a part of the octets; no other file is written and
nothing is told.  Of an artifact that is not refused one line is told: that it was skipped, or that
it was created.

Main statements: `Generator.refuses_of_make` and `Generator.foldlM_make_told`.
-/

set_option autoImplicit false

namespace DashboardKit

open Session

/-! ## Lines that are told -/

/-- The action shows this and does nothing else. -/
def Action.Shows (a : Action Unit) (e : Event) : Prop :=
  ∀ s, a.outcome s = (.ok (), { s with events := s.events ++ [e] })

namespace Artifact

variable {root path : Path} {echo : Bool} {a : Artifact} {key : Text} {fault : FileFault}
  {s s' : Session}

/-- What is told of an artifact that was created. -/
def createdMarkup (root : Path) (key : Text) (path : Path) : Text :=
  ("[green]✓[/green] " : Text) ++ key ++ (" created: " : Text) ++ Markup.escape (path.display root)

end Artifact

namespace Generator

variable {st : Settings} {kind : ComponentKind} {key : ArtifactKey} {keys : List ArtifactKey}
  {name : Text} {context : Entries} {s₀ s s' : Session} {p p' : Progress}

/-! ## One artifact -/

/-- A path that is planned for an artifact. -/
def PlannedAt (st : Settings) (kind : ComponentKind) (name : Text) (key : ArtifactKey) (q : Path) :
    Prop :=
  ∃ place, st.layout.place kind key name = .ok place ∧ q = st.projectRoot.joinParts place.parts

theorem PlannedAt.unique {q q' : Path} (h : PlannedAt st kind name key q)
    (h' : PlannedAt st kind name key q') : q = q' := by
  obtain ⟨place, hplace, rfl⟩ := h
  obtain ⟨place', hplace', rfl⟩ := h'
  rw [Except.ok.inj (hplace.symm.trans hplace')]

/-- A path that one of these artifacts is planned for, with a template that can be loaded. -/
def WrittenAt (st : Settings) (kind : ComponentKind) (name : Text) (s : Session)
    (keys : List ArtifactKey) (q : Path) : Prop :=
  ∃ key ∈ keys, loads st kind s key = true ∧ PlannedAt st kind name key q

/-- The octets that an artifact is written with: none for a text that cannot be encoded. -/
def RenderedAs (st : Settings) (kind : ComponentKind) (context : Entries) (s : Session)
    (key : ArtifactKey) (octets : Utf8.Octets) : Prop :=
  ∃ t content, templateText st kind s key = .ok t ∧
    Template.render st.delimiter context t = .ok content ∧ octets = Action.textOctets content

/-- What is told of an artifact that is not refused, by what its template is in a session: that it
is skipped, or that it was created. -/
inductive Told (st : Settings) (kind : ComponentKind) (name : Text) (s : Session)
    (key : ArtifactKey) : Event → Prop where
  | skipped {f : Failure} {e : Event} : templateText st kind s key = .error f →
      (Action.printWarning (("⚠️  Skipping " : Text) ++ Text.ofString key.name ++ (": " : Text)
        ++ f.message)).Shows e → Told st kind name s key e
  | created {t : Text} {path : Path} {e : Event} : templateText st kind s key = .ok t →
      PlannedAt st kind name key path →
      (Action.printMarkup (Artifact.createdMarkup st.projectRoot (Text.ofString key.name)
        path)).Shows e → Told st kind name s key e

end Generator

end DashboardKit
