import DashboardKit.Proofs.Generation.Remaking
import DashboardKit.Proofs.Text.Beginnings
import Mathlib.Data.List.Nodup

/-!
# The warnings of a run

First there is a warning for each artifact that was skipped, in order; then what went wrong with the
packages; and last, if so, that nothing was written.  No two of these kinds begin alike.

Main statement: `warns_of_stages`.
-/

set_option autoImplicit false

namespace DashboardKit.Generator

open Session

variable {st : Settings} {kind : ComponentKind} {config : Option ComponentConfig}
  {key : ArtifactKey} {name w : Text} {context : Entries} {s s' : Session} {m m' : Reconciler}
  {r r' : Report} {p p' : Progress} {names ws : List Text}

/-! ## Artifacts that were skipped -/

/-- How every warning begins that an artifact was skipped. -/
def skipWord : Text := "⚠️  Skipping "

/-- How the warning begins that the artifact of a name was skipped. -/
def skipMarker (name : Text) : Text := skipWord ++ name ++ (":" : Text)

theorem skipWord_prefix_skipMarker (name : Text) : skipWord <+: skipMarker name := by
  rw [skipMarker, List.append_assoc]
  exact List.prefix_append _ _

/-- The warning that an artifact was skipped because of this failure. -/
def skipWarning (name : Text) (f : Failure) : Text :=
  Text.trim CodePoint.isBlank (skipWord ++ name ++ (": " : Text) ++ f.message)

/-- A warning tells that the artifact of a name was skipped. -/
inductive TellsSkipped : Text → Text → Prop where
  | intro (key : ArtifactKey) (f : Failure) :
      TellsSkipped (Text.ofString key.name) (skipWarning (Text.ofString key.name) f)

theorem begins_skipWarning (key : ArtifactKey) (f : Failure) :
    skipMarker (Text.ofString key.name) <+: skipWarning (Text.ofString key.name) f := by
  have hsplit : skipWord ++ Text.ofString key.name ++ (": " : Text) ++ f.message
      = skipMarker (Text.ofString key.name) ++ ((" " : Text) ++ f.message) := by
    rw [skipMarker, List.append_assoc _ (":" : Text), ← List.append_assoc (":" : Text),
      ← List.append_assoc]
    rfl
  rw [skipWarning, hsplit]
  cases key with
  | component => exact Text.prefix_trim (by decide) (by decide) (by decide)
  | api => exact Text.prefix_trim (by decide) (by decide) (by decide)

theorem TellsSkipped.begins (h : TellsSkipped name w) : skipWord <+: w := by
  obtain ⟨key, f⟩ := h
  exact (skipWord_prefix_skipMarker _).trans (begins_skipWarning key f)

/-- A warning begins with the marker of the artifact that was skipped, and with no other. -/
theorem TellsSkipped.prefix_iff (h : TellsSkipped name w) (key : ArtifactKey) :
    skipMarker (Text.ofString key.name) <+: w ↔ name = Text.ofString key.name := by
  obtain ⟨key', f⟩ := h
  have hown := begins_skipWarning key' f
  constructor
  · intro hother
    by_contra hne
    have htake : (skipMarker (Text.ofString key.name)).take 14
        ≠ (skipMarker (Text.ofString key'.name)).take 14 := by
      revert hne
      cases key <;> cases key' <;> decide
    refine Text.not_prefix_of_take_ne 14 hown ?_ ?_ htake hother
    · cases key <;> decide
    · cases key' <;> decide
  · intro hname
    obtain rfl := ArtifactKey.eq_of_name hname
    exact hown

/-- There are as many warnings with a marker as artifacts of the name that were skipped. -/
theorem countP_skipMarker (h : List.Forall₂ TellsSkipped names ws) (key : ArtifactKey) :
    ws.countP (fun w => skipMarker (Text.ofString key.name) <+: w)
      = names.count (Text.ofString key.name) := by
  induction h with
  | nil => rfl
  | @cons name w names ws htells _ ih =>
    rw [List.countP_cons, List.count_cons, ih]
    simp only [decide_eq_true_eq, beq_iff_eq, htells.prefix_iff key]

theorem begins_of_mem (h : List.Forall₂ TellsSkipped names ws) (hw : w ∈ ws) : skipWord <+: w := by
  induction h with
  | nil => exact absurd hw List.not_mem_nil
  | cons htells _ ih =>
    rcases List.mem_cons.1 hw with rfl | hw
    · exact htells.begins
    · exact ih hw

theorem countP_skipWord (h : List.Forall₂ TellsSkipped names ws) :
    ws.countP (fun w => skipWord <+: w) = names.length := by
  rw [h.length_eq, List.countP_eq_length]
  exact fun w hw => decide_eq_true (begins_of_mem h hw)

theorem exists_key_of_mem (h : List.Forall₂ TellsSkipped names ws) (hname : name ∈ names) :
    ∃ key : ArtifactKey, name = Text.ofString key.name := by
  induction h with
  | nil => exact absurd hname List.not_mem_nil
  | cons htells _ ih =>
    rcases List.mem_cons.1 hname with rfl | hname
    · obtain ⟨key, f⟩ := htells
      exact ⟨key, rfl⟩
    · exact ih hname

theorem warnings_eq_nil_iff (h : List.Forall₂ TellsSkipped names ws) : ws = [] ↔ names = [] := by
  cases h <;> simp

/-- Making an artifact adds a warning if it is skipped, and none otherwise. -/
theorem tellsSkipped_of_make (hp : List.Forall₂ TellsSkipped p.skipped p.warnings)
    (h : (make st kind name context p key).outcome s = (.ok p', s')) :
    List.Forall₂ TellsSkipped p'.skipped p'.warnings := by
  unfold make at h
  rw [Action.outcome_bind_of_ok (outcome_template st kind key s)] at h
  cases htext : templateText st kind s key with
  | error f =>
    simp only [htext] at h
    obtain ⟨warnings, s₁, hwarn, hpure⟩ := Action.outcome_bind_eq_ok.1 h
    obtain ⟨rfl, -⟩ := Action.outcome_pure_eq_ok.1 hpure
    obtain ⟨rfl, -⟩ := warn_eq_ok hwarn
    exact List.rel_append hp (.cons (.intro key f) .nil)
  | ok t =>
    simp only [htext] at h
    obtain ⟨a, s₁, -, h⟩ := Action.outcome_bind_eq_ok.1 h
    obtain ⟨path, s₂, -, hpure⟩ := Action.outcome_bind_eq_ok.1 h
    obtain ⟨rfl, -⟩ := Action.outcome_pure_eq_ok.1 hpure
    exact hp

theorem tellsSkipped_of_foldlM {keys : List ArtifactKey}
    (hp : List.Forall₂ TellsSkipped p.skipped p.warnings)
    (h : (keys.foldlM (make st kind name context) p).outcome s = (.ok p', s')) :
    List.Forall₂ TellsSkipped p'.skipped p'.warnings := by
  induction keys generalizing p s with
  | nil =>
    obtain ⟨rfl, -⟩ := Action.outcome_pure_eq_ok.1 h
    exact hp
  | cons key keys ih =>
    rw [List.foldlM_cons] at h
    obtain ⟨p₁, mid, hmake, hrest⟩ := Action.outcome_bind_eq_ok.1 h
    exact ih (tellsSkipped_of_make hp hmake) hrest

/-- What is skipped are artifacts that were to be made, in order. -/
theorem Made.skipped_sublist {keys : List ArtifactKey} {written : Written} {skipped : List Text}
    (h : Made st kind name context keys s written skipped s') :
    skipped.Sublist (keys.map fun key => Text.ofString key.name) := by
  induction h with
  | done s => exact .slnil
  | skip _ _ _ ih => exact ih.cons_cons _
  | write _ _ _ _ ih => exact ih.cons _

/-- When the artifacts are made, there is one warning for each that was skipped. -/
theorem tellsSkipped_of_artifactStage
    (h : (artifactStage st kind config).outcome s = (.ok p, s')) :
    List.Forall₂ TellsSkipped p.skipped p.warnings ∧ p.skipped.Nodup := by
  constructor
  · unfold artifactStage at h
    obtain ⟨context, _, -, hrest⟩ := Action.outcome_bind_eq_ok.1 h
    obtain ⟨_, start, -, hall⟩ := Action.outcome_bind_eq_ok.1 hrest
    exact tellsSkipped_of_foldlM .nil hall
  · obtain ⟨context, start, -, -, hmade⟩ := artifactStage_eq_ok h
    have hnames : (kind.artifacts.map fun key => Text.ofString key.name).Nodup :=
      kind.nodup_artifacts.map fun a b hname => ArtifactKey.eq_of_name hname
    exact hmade.skipped_sublist.nodup hnames

/-! ## Packages -/

/-- The warnings about packages, by the trouble that is noted. -/
inductive TellsPackages : Option Text → List Text → Prop where
  | nothing : TellsPackages none []
  /-- the manifest could not be brought in line -/
  | manifest (message : Text) : TellsPackages (some message) [
      Text.trim CodePoint.isBlank
        (("⚠️  Failed to install dependencies: " : Text) ++ message),
      "You may need to install dependencies manually"]
  /-- the package manager failed -/
  | install (message : Text) : TellsPackages (some message) [
      ("Failed to install dependencies: " : Text) ++ message]

/-- How the warnings about packages may begin. -/
def packageOpenings : List Text := [
  "⚠️  Failed", "You may need to install dependencies manually", "Failed to install dependencies: "]

theorem TellsPackages.exists_opening {noted : Option Text} (h : TellsPackages noted ws)
    (hw : w ∈ ws) : ∃ opening ∈ packageOpenings, opening <+: w := by
  cases h with
  | nothing => exact absurd hw List.not_mem_nil
  | manifest message =>
    rcases List.mem_cons.1 hw with rfl | hw
    · have hsplit : ("⚠️  Failed to install dependencies: " : Text)
          = ("⚠️  Failed" : Text) ++ (" to install dependencies: " : Text) := by decide +kernel
      refine ⟨"⚠️  Failed", List.mem_cons_self, ?_⟩
      rw [hsplit, List.append_assoc]
      exact Text.prefix_trim (by decide) (by decide) (by decide)
    · obtain rfl := List.mem_singleton.1 hw
      exact ⟨_, List.mem_cons_of_mem _ List.mem_cons_self, List.prefix_refl _⟩
  | install message =>
    obtain rfl := List.mem_singleton.1 hw
    exact ⟨_, List.mem_cons_of_mem _ (List.mem_cons_of_mem _ List.mem_cons_self),
      List.prefix_append _ _⟩

/-- None of them begins like those about artifacts. -/
theorem TellsPackages.not_begins {noted : Option Text} (h : TellsPackages noted ws) (hw : w ∈ ws) :
    ¬ skipWord <+: w := by
  obtain ⟨opening, hopening, hbegins⟩ := h.exists_opening hw
  have hopenings : ∀ opening ∈ packageOpenings,
      5 ≤ opening.length ∧ skipWord.take 5 ≠ opening.take 5 := by decide
  exact Text.not_prefix_of_take_ne 5 hbegins (by decide) (hopenings opening hopening).1
    (hopenings opening hopening).2

theorem TellsPackages.eq_nil_iff {noted : Option Text} (h : TellsPackages noted ws) :
    ws = [] ↔ noted = none := by
  cases h <;> simp

theorem warnings_of_reconcileInto (hr : r.dependencyError = none)
    (h : (reconcileInto st r).outcome m s = (.ok r', m', s')) :
    ∃ ws, r'.warnings = r.warnings ++ ws ∧ TellsPackages r'.dependencyError ws := by
  unfold reconcileInto at h
  obtain ⟨_, _, _, -, h⟩ := ActionOf.outcome_bind_eq_ok.1 h
  obtain ⟨result, _, _, -, h⟩ := ActionOf.outcome_bind_eq_ok.1 h
  cases result with
  | error reason =>
    obtain ⟨h, -⟩ := ActionOf.outcome_lift_eq_ok.1 h
    obtain ⟨warnings, _, hwarn, h⟩ := Action.outcome_bind_eq_ok.1 h
    obtain ⟨warnings₁, _, hwarn₁, h⟩ := Action.outcome_bind_eq_ok.1 h
    obtain ⟨rfl, -⟩ := Action.outcome_pure_eq_ok.1 h
    obtain ⟨rfl, -⟩ := warn_eq_ok hwarn
    obtain ⟨rfl, -⟩ := warn_eq_ok hwarn₁
    exact ⟨_, List.append_assoc _ _ _, .manifest reason.message⟩
  | ok changed =>
    obtain ⟨reconciler, _, _, -, h⟩ := ActionOf.outcome_bind_eq_ok.1 h
    split at h
    · cases h
      refine ⟨[], (List.append_nil _).symm, ?_⟩
      simp only [hr]
      exact .nothing
    · rename_i message _
      cases h
      exact ⟨_, rfl, .install message⟩

/-! ## All warnings -/

/-- The warning that there is if nothing was written. -/
def emptyWarning : Text := "No files were generated"

theorem emptyWarning_not_mem_skips (h : List.Forall₂ TellsSkipped names ws) :
    emptyWarning ∉ ws := fun hmem => absurd (begins_of_mem h hmem) (by decide)

/-- The warning at the end, if there is one. -/
def lastWarnings (r : Report) : List Text := if r.written = [] then [emptyWarning] else []

theorem mem_lastWarnings : w ∈ lastWarnings r ↔ w = emptyWarning ∧ r.written = [] := by
  unfold lastWarnings
  split <;> simp [*]

/-- The warnings of a run: on the artifacts, on the packages, and last whether anything was
written. -/
theorem warnings_of_packageStage
    (h : (packageStage st kind config p).outcome m s = (.ok r, m', s')) :
    ∃ ws, TellsPackages r.dependencyError ws ∧
      r.warnings = p.warnings ++ (ws ++ lastWarnings r) := by
  unfold packageStage at h
  obtain ⟨r₁, _, s₁, hinto, hrest⟩ := ActionOf.outcome_bind_eq_ok.1 h
  obtain ⟨ws, hwarnings, htells⟩ := warnings_of_reconcileInto rfl hinto
  split at hrest
  · rename_i hsucceeded
    cases hrest
    have hwritten : r.written ≠ [] := by simpa [Report.succeeded] using hsucceeded
    refine ⟨ws, htells, ?_⟩
    rw [lastWarnings, if_neg hwritten, List.append_nil]
    exact hwarnings
  · rename_i hnothing
    obtain ⟨warnings, _, _, hwarn, hpure⟩ := ActionOf.outcome_bind_eq_ok.1 hrest
    obtain ⟨hwarn, -⟩ := ActionOf.outcome_lift_eq_ok.1 hwarn
    obtain ⟨rfl, -⟩ := warn_eq_ok hwarn
    cases hpure
    have hwritten : r₁.written = [] := by simpa [Report.succeeded] using hnothing
    refine ⟨ws, htells, ?_⟩
    rw [lastWarnings, if_pos hwritten, ← List.append_assoc]
    simp only [hwarnings]
    rfl

theorem emptyWarning_not_mem_packages {noted : Option Text} (h : TellsPackages noted ws) :
    emptyWarning ∉ ws := by
  intro hmem
  obtain ⟨opening, hopening, hbegins⟩ := h.exists_opening hmem
  have hnone : ∀ opening ∈ packageOpenings, ¬ opening <+: emptyWarning := by decide
  exact hnone opening hopening hbegins

/-- Behind the warnings about artifacts there are none that begin so. -/
theorem countP_behind {noted : Option Text} {marker : Text} (h : TellsPackages noted ws)
    (hmarker : skipWord <+: marker) :
    (ws ++ lastWarnings r).countP (fun w => marker <+: w) = 0 := by
  rw [List.countP_eq_zero]
  intro w hw hbegins
  have hword : skipWord <+: w := hmarker.trans (by simpa using hbegins)
  rcases List.mem_append.1 hw with hw | hw
  · exact h.not_begins hw hword
  · obtain ⟨rfl, -⟩ := mem_lastWarnings.1 hw
    exact absurd hword (by decide)

/-- What the warnings of a report tell of the rest of it. -/
structure Warns (r : Report) : Prop where
  /-- there is exactly one warning for each artifact that was skipped, with its name -/
  skipped : ∀ name ∈ r.skipped, r.warnings.countP (fun w => skipMarker name <+: w) = 1
  /-- and no more than these begin so -/
  marked : r.warnings.countP (fun w => skipWord <+: w) = r.skipped.length
  /-- it is warned that nothing was written, exactly if so -/
  empty : emptyWarning ∈ r.warnings ↔ r.written = []
  /-- nothing is warned of, exactly if nothing was skipped, something was written, and nothing went
  wrong with the packages -/
  silent : r.warnings = [] ↔ r.skipped = [] ∧ r.written ≠ [] ∧ r.dependencyError = none

/-- The warnings of a run tell of what was skipped, of whether anything was written, and of what
went wrong with the packages. -/
theorem warns_of_stages {mid : Session}
    (hartifacts : (artifactStage st kind config).outcome s = (.ok p, mid))
    (hpackages : (packageStage st kind config p).outcome m mid = (.ok r, m', s')) : Warns r := by
  obtain ⟨hskips, hnodup⟩ := tellsSkipped_of_artifactStage hartifacts
  obtain ⟨ws, htells, hwarnings⟩ := warnings_of_packageStage hpackages
  rw [← (packageStage_eq_ok hpackages).2.2] at hskips hnodup
  constructor
  · intro name hname
    obtain ⟨key, rfl⟩ := exists_key_of_mem hskips hname
    rw [hwarnings, List.countP_append, countP_behind htells (skipWord_prefix_skipMarker _),
      countP_skipMarker hskips]
    exact List.count_eq_one_of_mem hnodup hname
  · rw [hwarnings, List.countP_append, countP_behind htells (List.prefix_refl _),
      countP_skipWord hskips]
    rfl
  · rw [hwarnings, List.mem_append, List.mem_append, mem_lastWarnings, and_iff_right rfl,
      or_iff_right (emptyWarning_not_mem_packages htells),
      or_iff_right (emptyWarning_not_mem_skips hskips)]
  · rw [hwarnings, List.append_eq_nil_iff, List.append_eq_nil_iff, htells.eq_nil_iff,
      warnings_eq_nil_iff hskips]
    unfold lastWarnings
    split <;> simp [*]

end DashboardKit.Generator
