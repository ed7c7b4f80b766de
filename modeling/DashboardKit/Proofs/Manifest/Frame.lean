import DashboardKit.Proofs.Session.Overwriting

/-!
# What bringing packages in line leaves alone

Reading, merging and writing a manifest touches no file but the manifest, and the package manager is
only called.  So it keeps whatever saving the manifest keeps and printing and calling do.

Main statements: `keeps_reconcile_of` and `keeps_reconcile`.
-/

set_option autoImplicit false

namespace DashboardKit.Reconciler

open Session DashboardKit.Action

theorem keeps_readManifest (path : Path) : (readManifest path).Keeps Eq := by
  unfold readManifest
  refine ((keeps_loadJson path).tryCatch fun f => ?_).bind fun v => ?_
  · split <;> exact keeps_throw _
  · split
    · exact keeps_pure _
    · exact keeps_throw _

section

variable {R : Session → Session → Prop} [IsPreorder Session R] {path : Path}

theorem keeps_writeManifest (hsave : ∀ m, (saveJson (.map m) path).Keeps R) (m : Manifest) :
    (writeManifest path m).Keeps R := by
  unfold writeManifest
  refine Keeps.tryCatch ?_ fun f => ?_
  · refine keeps_get.bind fun s => ?_
    split
    · exact (keeps_throw _).bind fun _ => hsave m
    · exact hsave m
  · split <;> exact keeps_throw _

theorem keeps_patchManifest (hcalls : ∀ calls s s', CallsTo calls s s' → R s s')
    (hsave : ∀ m, (saveJson (.map m) path).Keeps R) (required : List Requirement) :
    (patchManifest required path).Keeps R := by
  unfold patchManifest
  refine (keeps_readManifest path).of_eq.bind fun m => ?_
  split
  rename_i merged added _
  split
  · refine Keeps.bind ?_ fun _ => keeps_pure _
    exact (keeps_printMarkup _).mono fun s s' h => hcalls _ s s' h.callsTo
  · exact (keeps_writeManifest hsave merged).bind fun _ => keeps_pure _

/-- The package manager is noted as called. -/
theorem keeps_install (hcalls : ∀ calls s s', CallsTo calls s s' → R s s') (command : List Text)
    (dir : Path) : (install command dir).Keeps R := by
  unfold install
  refine ((keeps_print _).mono fun s s' h => hcalls _ s s' h.callsTo).bind fun _ => ?_
  have hcalled : (modify fun s => { s with installCalls := s.installCalls ++ [⟨command, dir⟩] } :
      Action Unit).Keeps R := fun s => hcalls [⟨command, dir⟩] s _ rfl
  refine hcalled.bind fun _ => keeps_get.bind fun s => ?_
  split
  · split
    · exact keeps_throw _
    · exact keeps_pure _
  · exact keeps_throw _

theorem keeps_installAdded (hcalls : ∀ calls s s', CallsTo calls s s' → R s s') (dir : Path) :
    (installAdded dir).Keeps R := by
  unfold installAdded
  refine ActionOf.keeps_memory.bind fun r => (ActionOf.keeps_lift ?_).bind fun failed => ?_
  · refine ((keeps_install hcalls _ dir).bind fun _ => keeps_pure _).tryCatch fun f => ?_
    split
    · exact keeps_pure _
    · exact keeps_throw _
  · split
    · refine (ActionOf.keeps_remember _).bind fun _ => ActionOf.keeps_lift ?_
      have hwarn (t : Text) : (printWarning t).Keeps R :=
        (keeps_printWarning t).mono fun s s' h => hcalls _ s s' h.callsTo
      exact (hwarn _).bind fun _ => hwarn _
    · exact ActionOf.keeps_pure _

/-- Bringing packages in line keeps what printing and calling the package manager keep and what
saving the manifest keeps. -/
theorem keeps_reconcile_of (hcalls : ∀ calls s s', CallsTo calls s s' → R s s')
    (hsave : ∀ m, (saveJson (.map m) path).Keeps R) (required : List Requirement) :
    (reconcile required path).Keeps R := by
  unfold reconcile
  refine (ActionOf.keeps_remember _).bind fun _ => ?_
  refine (ActionOf.keeps_lift (keeps_patchManifest hcalls hsave required)).bind fun added => ?_
  split
  · exact ActionOf.keeps_pure _
  · refine (ActionOf.keeps_remember _).bind fun _ => ?_
    refine (ActionOf.keeps_lift ?_).bind fun _ => ActionOf.keeps_memory.bind fun r => ?_
    · exact keeps_forM fun r => (keeps_print _).mono fun s s' h => hcalls _ s s' h.callsTo
    · split
      · exact (keeps_installAdded hcalls _).bind fun _ => ActionOf.keeps_pure _
      · exact ActionOf.keeps_pure _

end

/-- Bringing packages in line writes the manifest and no other file. -/
theorem keeps_reconcile (required : List Requirement) (path : Path) :
    (reconcile required path).Keeps (GrowsAt (· = path)) :=
  keeps_reconcile_of (fun _ _ _ h => (h.overwrites _).1) (fun m => keeps_saveJson (.map m) path)
    required

/-- Bringing packages in line writes over a manifest that is there and changes no other file. -/
theorem keeps_reconcile_rewritesAt (required : List Requirement) (path : Path) :
    (reconcile required path).Keeps (RewritesAt path) :=
  keeps_reconcile_of (fun _ _ _ h => h.rewritesAt path)
    (fun m => keeps_saveJson_rewritesAt (.map m) path) required

end DashboardKit.Reconciler
