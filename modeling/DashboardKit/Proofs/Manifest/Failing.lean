import DashboardKit.Manifest.Reconciler
import DashboardKit.Proofs.Session.Failing

/-!
# What bringing packages in line fails with

The reconciler has failures of its own and lets others through, all of them failures of the work on
files and packages.

Main statement: `failsWith_reconcile`.
-/

set_option autoImplicit false

namespace DashboardKit.Reconciler

open DashboardKit.Action

variable {path : Path} {required : List Requirement}

theorem failsWith_readManifest : (readManifest path).FailsWith Failure.OfWork := by
  unfold readManifest
  refine ((failsWith_loadJson path).tryCatch fun f hf => ?_).bind fun v => ?_
  · split
    · exact failsWith_throw ⟨nofun, rfl⟩
    · exact failsWith_throw ⟨nofun, rfl⟩
    · exact failsWith_throw hf
  · split
    · exact failsWith_pure _
    · exact failsWith_throw ⟨nofun, rfl⟩

theorem failsWith_writeManifest (m : Manifest) :
    (writeManifest path m).FailsWith Failure.OfWork := by
  unfold writeManifest
  refine FailsWith.tryCatch (Q := Failure.OfWork) ?_ fun f hf => ?_
  · refine failsWith_get.bind fun s => ?_
    split
    · exact (failsWith_throw ⟨nofun, rfl⟩).bind fun _ => failsWith_saveJson _ path
    · exact failsWith_saveJson _ path
  · split
    · exact failsWith_throw ⟨nofun, rfl⟩
    · exact failsWith_throw hf

theorem failsWith_patchManifest : (patchManifest required path).FailsWith Failure.OfWork := by
  unfold patchManifest
  refine failsWith_readManifest.bind fun m => ?_
  split
  rename_i merged added _
  split
  · exact (failsWith_printMarkup _).bind fun _ => failsWith_pure _
  · exact (failsWith_writeManifest merged).bind fun _ => failsWith_pure _

theorem failsWith_install (command : List Text) (dir : Path) :
    (install command dir).FailsWith Failure.OfWork := by
  unfold install
  refine (failsWith_print _).bind fun _ => (failsWith_modify _).bind fun _ => ?_
  refine failsWith_get.bind fun s => ?_
  split
  · split
    · exact failsWith_throw ⟨nofun, rfl⟩
    · exact failsWith_pure _
  · exact failsWith_throw ⟨nofun, rfl⟩

theorem failsWith_installAdded (dir : Path) :
    (installAdded dir).FailsWith Failure.OfWork := by
  unfold installAdded
  refine ActionOf.failsWith_memory.bind fun r => (ActionOf.failsWith_lift ?_).bind fun failed => ?_
  · refine ((failsWith_install _ dir).bind fun _ => failsWith_pure _).tryCatch fun f hf => ?_
    split
    · exact failsWith_pure _
    · exact failsWith_throw hf
  · split
    · refine (ActionOf.failsWith_remember _).bind fun _ => ActionOf.failsWith_lift ?_
      exact (failsWith_printMarkup _).bind fun _ => failsWith_printMarkup _
    · exact ActionOf.failsWith_pure _

theorem failsWith_reconcile : (reconcile required path).FailsWith Failure.OfWork := by
  unfold reconcile
  refine (ActionOf.failsWith_remember _).bind fun _ => ?_
  refine (ActionOf.failsWith_lift failsWith_patchManifest).bind fun added => ?_
  split
  · exact ActionOf.failsWith_pure _
  · refine (ActionOf.failsWith_remember _).bind fun _ => ?_
    refine (ActionOf.failsWith_lift ?_).bind fun _ => ActionOf.failsWith_memory.bind fun r => ?_
    · exact failsWith_forM fun r => failsWith_print _
    · split
      · exact (failsWith_installAdded _).bind fun _ => ActionOf.failsWith_pure _
      · exact ActionOf.failsWith_pure _

end DashboardKit.Reconciler
