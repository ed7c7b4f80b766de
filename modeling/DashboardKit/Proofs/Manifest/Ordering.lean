import DashboardKit.Manifest.Reconciler
import DashboardKit.Proofs.Text.Order
import Mathlib.Data.List.Nodup
import Mathlib.Data.Prod.Lex

/-!
# The order in which requirements are merged

Requirements are ordered by their sections and then by their names, which are compared like the
lists of the numbers of their code points.  Sorting them keeps requirements of one place in the
order in which they were given.  Different names have different places, so that the order in which
requirements of different packages are given makes no difference to what comes of them.

Main statements: `stablySorted_ordered` and `merge_of_perm`.
-/

set_option autoImplicit false

namespace DashboardKit

namespace Requirement

variable {a b : Requirement} {required required' : List Requirement}

/-- Where a requirement belongs: by the rank of its section and then by its name. -/
def place (r : Requirement) : Nat ×ₗ List Nat := toLex (r.rank, r.name.map CodePoint.value)

theorem atMost_iff : atMost a b = true ↔ a.place ≤ b.place := by
  rw [atMost, place, place, Prod.Lex.toLex_le_toLex]
  simp [Text.atMost_iff]

/-- Requirements in order; those of one place stand as they were given. -/
structure StablySorted (required sorted : List Requirement) : Prop where
  perm : sorted.Perm required
  in_order : sorted.Pairwise fun a b => a.place ≤ b.place
  stable : ∀ p, (sorted.filter fun r => r.place = p) = required.filter fun r => r.place = p

theorem stablySorted_ordered (required : List Requirement) :
    StablySorted required (ordered required) := by
  have htrans (a b c : Requirement) (hab : atMost a b = true) (hbc : atMost b c = true) :
      atMost a c = true :=
    atMost_iff.2 (le_trans (atMost_iff.1 hab) (atMost_iff.1 hbc))
  have htotal (a b : Requirement) : (atMost a b || atMost b a) = true := by
    rw [Bool.or_eq_true, atMost_iff, atMost_iff]
    exact le_total a.place b.place
  have hperm : (ordered required).Perm required := List.mergeSort_perm required atMost
  refine ⟨hperm, ?_, fun p => ?_⟩
  · exact (List.pairwise_mergeSort htrans htotal required).imp atMost_iff.1
  · -- those of one place are in order as they are, and so they stay
    have htied : (required.filter fun r => r.place = p).Pairwise fun a b => atMost a b = true := by
      refine List.pairwise_of_forall_mem_list fun a ha b hb => ?_
      have hplace (r : Requirement) (hr : r ∈ required.filter fun r => r.place = p) : r.place = p :=
        of_decide_eq_true (List.mem_filter.1 hr).2
      rw [atMost_iff, hplace a ha, hplace b hb]
    have hsub := (List.sublist_mergeSort htrans htotal htied List.filter_sublist).filter
      fun r => r.place = p
    rw [List.filter_filter] at hsub
    simp only [Bool.and_self] at hsub
    exact (hsub.eq_of_length (hperm.filter _).length_eq.symm).symm

theorem name_eq_of_place_eq (h : a.place = b.place) : a.name = b.name := by
  have hpair := toLex.injective h
  exact CodePoint.value_injective.list_map (Prod.mk.inj hpair).2

/-- Requirements of different packages are in order in one way only. -/
theorem ordered_of_perm (hperm : required.Perm required')
    (hnames : (required.map (·.name)).Nodup) : ordered required = ordered required' := by
  have hsorted := stablySorted_ordered required
  have hsorted' := stablySorted_ordered required'
  refine List.Perm.eq_of_pairwise (fun a b ha hb hab hba => ?_) hsorted.in_order hsorted'.in_order
    (hsorted.perm.trans (hperm.trans hsorted'.perm.symm))
  have hname := name_eq_of_place_eq (le_antisymm hab hba)
  have hmem : b ∈ required := hperm.mem_iff.2 (hsorted'.perm.mem_iff.1 hb)
  exact List.inj_on_of_nodup_map hnames (hsorted.perm.mem_iff.1 ha) hmem hname

end Requirement

/-! ## Requirements in another order -/

namespace Manifest

variable {required required' : List Requirement}

/-- Requirements of different packages can be given in any order: the same ones are added in the
same order, to the same manifest, and a reconciler does the same with them. -/
theorem merge_of_perm (hperm : required.Perm required') (hnames : (required.map (·.name)).Nodup) :
    (∀ m : Manifest, m.merge required = m.merge required') ∧
      ∀ path, Reconciler.reconcile required path = Reconciler.reconcile required' path := by
  have hordered := Requirement.ordered_of_perm hperm hnames
  have hmerge (m : Manifest) : m.merge required = m.merge required' := by
    rw [merge, merge, hordered]
  refine ⟨hmerge, fun path => ?_⟩
  have hpatch :
      Reconciler.patchManifest required path = Reconciler.patchManifest required' path := by
    simp only [Reconciler.patchManifest, hmerge]
  rw [Reconciler.reconcile, Reconciler.reconcile, hpatch]

/-- Requirements for sections that count and for others, which have one rank. -/
def scatteredRequired : List Requirement :=
  [⟨"vue", "^3", "peerDependencies"⟩, ⟨"mqtt", "^5", Requirement.runtime⟩,
    ⟨"ajv", "^8", "optionalDependencies"⟩, ⟨"vite", "^6", Requirement.development⟩]

/-- Back to front, they are merged as they are front to back. -/
theorem merge_of_perm_scatteredRequired :
    scatteredRequired.Perm scatteredRequired.reverse ∧ (scatteredRequired.map (·.name)).Nodup ∧
      ∀ m : Manifest, m.merge scatteredRequired = m.merge scatteredRequired.reverse := by
  have hperm : scatteredRequired.Perm scatteredRequired.reverse :=
    (List.reverse_perm scatteredRequired).symm
  have hnames : (scatteredRequired.map (·.name)).Nodup := by decide
  exact ⟨hperm, hnames, (merge_of_perm hperm hnames).1⟩

end Manifest

end DashboardKit
