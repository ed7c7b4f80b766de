import DashboardKit.Component.Layout
import DashboardKit.Proofs.Component.Names
import DashboardKit.Proofs.Path.Joining

/-!
# The files of a component

Every artifact of a kind has a place, and its file bears a name without a hyphen.  The names of
templates hold one, so that no artifact is ever written over a template.

Main statements: `Layout.exists_place` and `Layout.leadsToArtifact_place`.
-/

set_option autoImplicit false

namespace DashboardKit

open DashboardKit.Path (BeginsFileName fileSegments)

variable {kind : ComponentKind} {key : ArtifactKey} {n : Text}

/-- A text that begins the file name of an artifact: there is no hyphen in it. -/
structure BeginsArtifactName (n : Text) : Prop extends BeginsFileName n where
  no_hyphen : CodePoint.hyphen ∉ n

/-! ## Names of components -/

/-- A name begins with a letter or sign that a file may begin with, and goes on so. -/
theorem beginsArtifactName_of_isName (h : ComponentConfig.isName n = true) :
    BeginsArtifactName n := by
  cases n with
  | nil => simp [ComponentConfig.isName] at h
  | cons p t =>
    have hall := ComponentConfig.all_inName_of_isName h
    have hwhole := ComponentConfig.whole_of_isName h
    rw [ComponentConfig.isName, Bool.and_eq_true] at h
    refine ⟨⟨hwhole, List.cons_ne_nil p t, ?_, ?_⟩, ?_⟩
    · exact fun hmem => (ComponentConfig.inName_ne (hall _ hmem)).1 rfl
    · intro hdot
      exact ComponentConfig.beginsName_ne h.1 (Option.some.inj hdot)
    · exact fun hmem => (ComponentConfig.inName_ne (hall _ hmem)).2 rfl

/-- A name is one segment of a path, and one that leads down. -/
theorem proper_of_isName (h : ComponentConfig.isName n = true) :
    Path.ProperSegment n ∧ n ≠ Path.dotDot := by
  have happend := (beginsArtifactName_of_isName h).toBeginsFileName.proper_append
    (List.not_mem_nil (a := Path.slash))
  rwa [List.append_nil] at happend

theorem BeginsArtifactName.append (h : BeginsArtifactName n) {t : Text}
    (ht : ∀ q ∈ t, ComponentConfig.inName q = true) : BeginsArtifactName (n ++ t) := by
  obtain ⟨p, n, rfl⟩ := List.exists_cons_of_ne_nil h.ne_nil
  refine ⟨⟨?_, List.cons_ne_nil p _, ?_, h.no_dot⟩, ?_⟩
  · exact Text.whole_append.2 ⟨h.whole, ComponentConfig.whole_of_inName ht⟩
  · intro hmem
    rcases List.mem_append.1 hmem with hmem | hmem
    · exact h.no_slash hmem
    · exact (ComponentConfig.inName_ne (ht _ hmem)).1 rfl
  · intro hmem
    rcases List.mem_append.1 hmem with hmem | hmem
    · exact h.no_hyphen hmem
    · exact (ComponentConfig.inName_ne (ht _ hmem)).2 rfl

theorem isName_effectiveName (h : ComponentConfig.isName n = true) :
    ComponentConfig.isName (Layout.effectiveName kind n) = true := by
  have hcontainer : ComponentConfig.isName Layout.containerName = true := by decide
  cases kind with
  | dashtable => exact hcontainer
  | _ => exact h

theorem beginsArtifactName_fileStem (h : ComponentConfig.isName n = true) :
    BeginsArtifactName (Layout.fileStem kind n) := by
  have hn := beginsArtifactName_of_isName h
  cases kind with
  | stats => exact hn.append (by decide)
  | _ => exact hn

theorem beginsArtifactName_route : BeginsArtifactName "route" :=
  beginsArtifactName_of_isName (by decide)

/-! ## Names of templates -/

theorem beginsFileName_templateId (kind : ComponentKind) (key : ArtifactKey) :
    BeginsFileName (kind.templateId key) := by
  cases kind <;> cases key <;> exact ⟨by decide, by decide, by decide, by decide⟩

theorem hyphen_mem_templateId (kind : ComponentKind) (key : ArtifactKey) :
    CodePoint.hyphen ∈ kind.templateId key := by
  cases kind <;> cases key <;> decide

/-! ## Places -/

/-- A path to a file with the name of an artifact and an extension. -/
def LeadsToArtifact (ext : Text) (p : Path) : Prop :=
  ∃ stem anchor before, BeginsArtifactName stem ∧ p = ⟨anchor, before ++ fileSegments stem ext⟩

theorem LeadsToArtifact.join {ext : Text} {p : Path} (h : LeadsToArtifact ext p) (root : Path) :
    LeadsToArtifact ext (root.join p) := by
  obtain ⟨stem, anchor, before, hstem, rfl⟩ := h
  cases anchor with
  | here =>
    refine ⟨stem, root.anchor, root.segments ++ before, hstem, ?_⟩
    rw [List.append_assoc]
    rfl
  | root => exact ⟨stem, .root, before, hstem, rfl⟩
  | doubleRoot => exact ⟨stem, .doubleRoot, before, hstem, rfl⟩

theorem BeginsArtifactName.leadsToArtifact (h : BeginsArtifactName n) (dir : Path) (ext : Text) :
    LeadsToArtifact ext (dir.joinText (n ++ ext)) :=
  ⟨n, dir.anchor, dir.segments, h, h.toBeginsFileName.joinText_append dir ext⟩

namespace Layout

variable {l : Layout} {p : Path}

theorem effectiveName_of_ne (h : kind ≠ .dashtable) (name : Text) :
    effectiveName kind name = name := by
  cases kind with
  | dashtable => exact absurd rfl h
  | _ => rfl

/-- Every artifact of a kind has a place. -/
theorem exists_place (l : Layout) (n : Text) (hkey : key ∈ kind.artifacts) :
    ∃ p, l.place kind key n = .ok p := by
  cases key with
  | component => exact ⟨_, rfl⟩
  | api =>
    cases kind with
    | dashtable => exact absurd hkey (by decide)
    | _ => exact ⟨_, rfl⟩

/-- The place of an artifact of a component with a proper name is a file of its own kind. -/
theorem leadsToArtifact_place (hn : ComponentConfig.isName n = true)
    (h : l.place kind key n = .ok p) : LeadsToArtifact l.extension p := by
  cases key with
  | component =>
    obtain rfl := Except.ok.inj h
    exact (beginsArtifactName_fileStem (isName_effectiveName hn)).leadsToArtifact _ _
  | api =>
    cases kind with
    | dashtable => simp [place] at h
    | _ =>
      obtain rfl := Except.ok.inj h
      exact beginsArtifactName_route.leadsToArtifact _ _

/-- The place of an artifact is spelled by proper segments if the directories are. -/
theorem proper_place (hcomponent : ∀ s ∈ l.componentDir.segments, Path.ProperSegment s)
    (hapi : ∀ s ∈ l.apiDir.segments, Path.ProperSegment s) (h : l.place kind key n = .ok p) :
    ∀ s ∈ p.segments, Path.ProperSegment s := by
  cases key with
  | component =>
    obtain rfl := Except.ok.inj h
    exact Path.proper_joinText hcomponent _
  | api =>
    have hroute : ∀ s ∈ (l.apiDir.joinText (Text.lower (effectiveName kind n))).segments,
        Path.ProperSegment s := Path.proper_joinText hapi _
    cases kind with
    | dashtable => simp [place] at h
    | stats =>
      obtain rfl := Except.ok.inj h
      exact Path.proper_joinText (Path.proper_joinText hroute _) _
    | _ =>
      obtain rfl := Except.ok.inj h
      exact Path.proper_joinText hroute _

end Layout

end DashboardKit
