import DashboardKit.Proofs.Generation.Stages
import DashboardKit.Proofs.Manifest.Failing

/-!
# What making components fails with

Once the values for the templates are there, a run fails with an artifact or with a failure of the
work on files, texts and packages.  It never fails with the input of the user, and behind the last
artifact not with an artifact either.

Main statements: `failsWith_makeAll` and `failsWith_packageStage`.
-/

set_option autoImplicit false

namespace DashboardKit

theorem Artifact.failsWith_write (root : Path) (a : Artifact) :
    (a.write root true).FailsWith Failure.NoInput := by
  unfold write writing
  refine Action.FailsWith.bind ?_ fun _ => ?_
  · have hfiles : (Action.ensureDir (a.destination root).parent >>= fun _ =>
        Action.writeText (a.destination root) a.content).FailsWith Failure.OfWork :=
      (Action.failsWith_ensureDir _).bind fun _ => Action.failsWith_writeText _ _
    refine hfiles.tryCatch fun f hf => ?_
    split
    · exact Action.failsWith_throw rfl
    · exact Action.failsWith_throw hf.noInput
  · simp only [if_true]
    refine Action.FailsWith.bind ?_ fun _ => Action.failsWith_pure _
    exact (Action.failsWith_printMarkup _).mono fun _ hf => hf.noInput

namespace Generator

variable {st : Settings} {kind : ComponentKind} {key : ArtifactKey} {name : Text}
  {context : Entries}

theorem failsWith_warn (message : Text) (warnings : List Text) :
    (warn message warnings).FailsWith Failure.OfWork :=
  (Action.failsWith_printMarkup _).bind fun _ => Action.failsWith_pure _

theorem failsWith_artifact {f : Failure} {t : Text}
    (h : artifact st kind key name context t = .error f) : f.OfWork := by
  unfold artifact TemplateStore.render at h
  cases hplace : st.layout.place kind key name with
  | error e =>
    rw [hplace] at h
    cases h
    exact ⟨nofun, rfl⟩
  | ok place =>
    rw [hplace] at h
    cases hrender : Template.render (TemplateStore.ofSettings st).delimiter context t with
    | error e =>
      rw [hrender] at h
      cases h
      cases e <;> exact ⟨nofun, rfl⟩
    | ok content =>
      rw [hrender] at h
      cases h

theorem failsWith_make (p : Progress) :
    (make st kind name context p key).FailsWith Failure.NoInput := by
  unfold make
  have htemplate : (template st kind key).FailsWith Failure.NoInput := by
    intro s f s' hrun
    rw [outcome_template] at hrun
    cases hrun
  refine htemplate.bind fun found => ?_
  cases found with
  | error f =>
    refine Action.FailsWith.bind ?_ fun _ => Action.failsWith_pure _
    exact (failsWith_warn _ _).mono fun _ hf => hf.noInput
  | ok t =>
    refine Action.FailsWith.bind ?_ fun a => ?_
    · cases hmake : artifact st kind key name context t with
      | error f => exact Action.failsWith_throw (failsWith_artifact hmake).noInput
      | ok a => exact Action.failsWith_pure a
    · exact (Artifact.failsWith_write _ a).bind fun _ => Action.failsWith_pure _

/-- Making the artifacts never fails with the input of the user. -/
theorem failsWith_makeAll : (makeAll st kind name context).FailsWith Failure.NoInput :=
  Action.failsWith_foldlM fun p _ => failsWith_make p

theorem failsWith_reconcileInto (st : Settings) (r : Report) :
    (reconcileInto st r).FailsWith Failure.OfWork := by
  unfold reconcileInto
  refine (ActionOf.failsWith_lift (Action.failsWith_print _)).bind fun _ => ?_
  refine ActionOf.FailsWith.bind ?_ fun result => ?_
  · refine ActionOf.FailsWith.tryCatch (Q := Failure.OfWork) ?_ fun f hf => ?_
    · exact Reconciler.failsWith_reconcile.bind fun _ => ActionOf.failsWith_pure _
    · split
      · exact ActionOf.failsWith_pure _
      · exact ActionOf.failsWith_throw hf
  · split
    · refine ActionOf.failsWith_lift ?_
      refine (failsWith_warn _ _).bind fun _ => ?_
      exact (failsWith_warn _ _).bind fun _ => Action.failsWith_pure _
    · refine ActionOf.failsWith_memory.bind fun reconciler => ?_
      split <;> exact ActionOf.failsWith_pure _

/-- The second stage fails neither with an artifact nor with the input of the user. -/
theorem failsWith_packageStage (st : Settings) (kind : ComponentKind)
    (config : Option ComponentConfig) (p : Progress) :
    (packageStage st kind config p).FailsWith Failure.OfWork := by
  unfold packageStage
  refine (failsWith_reconcileInto st _).bind fun r => ?_
  split
  · exact ActionOf.failsWith_pure _
  · exact (ActionOf.failsWith_lift (failsWith_warn _ _)).bind fun _ => ActionOf.failsWith_pure _

end Generator

end DashboardKit
