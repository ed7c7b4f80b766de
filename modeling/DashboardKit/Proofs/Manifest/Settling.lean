import DashboardKit.Proofs.Manifest.Effects
import DashboardKit.Proofs.Session.Rereading

/-!
# How manifests settle

A manifest is settled once it lacks nothing.  A call of a reconciler that comes to an end leaves it
settled: what it wrote is read back and declares all that is required.  So does a call that spoils
it: an empty file lacks nothing that could be told, and a beginning of a manifest is read as nothing
or as the whole of it.  Any other call leaves it as it was.

Main statement: `settles_reconcile`.
-/

set_option autoImplicit false

namespace DashboardKit

/-! ## Reading back -/

namespace Entries

theorem get?_rereadEntries (es : Entries) (id : Text) :
    get? (Value.rereadEntries es) id = (get? es id).map Value.reread := by
  induction es with
  | nil => rfl
  | cons e es ih =>
    obtain ⟨a, v⟩ := e
    rw [Value.rereadEntries, get?_cons, get?_cons, ih]
    split <;> rfl

end Entries

namespace Manifest

variable {m : Manifest}

theorem section?_rereadEntries (m : Manifest) (name : Text) :
    Manifest.section? (Value.rereadEntries m) name
      = (m.section? name).map Value.rereadEntries := by
  unfold section?
  rw [Entries.get?_rereadEntries]
  cases Entries.get? m name with
  | none => rfl
  | some v => cases v <;> rfl

/-- A manifest that was written and is read again declares the same packages. -/
theorem declares_rereadEntries (m : Manifest) (name : Text) :
    declares (Value.rereadEntries m) name = m.declares name := by
  unfold declares
  congr 1
  funext s
  rw [section?_rereadEntries]
  cases m.section? s with
  | none => rfl
  | some entries =>
    simp only [Option.map_some, Option.getD_some]
    rw [Entries.has, Entries.get?_rereadEntries, Option.isSome_map, Entries.has]

end Manifest

namespace Reconciler

open Session DashboardKit.Action

variable {r r' : Reconciler} {required : List Requirement} {path : Path} {s s' : Session}
  {x : Except Failure Bool}

/-! ## Settled manifests -/

/-- The octets at the path of a manifest, or why there are none. -/
def octets (path : Path) (s : Session) : Except FileFault Utf8.Octets :=
  s.tree.readFile s.workingDir path

/-- A manifest lacks nothing, or what it lacks cannot be told. -/
def Settled (required : List Requirement) (path : Path) (s : Session) : Prop :=
  ∀ merged, ¬ Lacks required path s merged

/-- What a manifest lacks is settled by its octets. -/
theorem Lacks.of_octets {merged : Manifest} (h : Lacks required path s merged)
    (hsame : octets path s' = octets path s) : Lacks required path s' merged := by
  obtain ⟨m, hholds, hlacks⟩ := h
  exact ⟨m, hholds.of_reads fun _ hread => hsame.trans hread, hlacks⟩

theorem Settled.of_octets (h : Settled required path s)
    (hsame : octets path s' = octets path s) : Settled required path s' :=
  fun merged hlacks => h merged (hlacks.of_octets hsame.symm)

/-- Neither was the manifest changed nor the package manager called. -/
structure Untouched (path : Path) (s s' : Session) : Prop where
  octets : octets path s' = octets path s
  installCalls : s'.installCalls = s.installCalls

theorem Untouched.trans {s'' : Session} (h : Untouched path s s') (h' : Untouched path s' s'') :
    Untouched path s s'' :=
  ⟨h'.octets.trans h.octets, h'.installCalls.trans h.installCalls⟩

theorem untouched_of_printsTo (h : PrintsTo s s') : Untouched path s s' := by
  unfold PrintsTo at h
  rw [h]
  exact ⟨rfl, rfl⟩

/-- A merged manifest lacks nothing when it is read back. -/
theorem merge_rereadEntries (hsections : ∀ r ∈ required, r.section_ ∈ Requirement.sections)
    (m : Manifest) :
    (Manifest.merge (Value.rereadEntries (m.merge required).1) required).2 = [] := by
  refine Manifest.merge_snd_eq_nil_iff.2 fun r hr => ?_
  rw [Manifest.declares_rereadEntries]
  exact Manifest.declares_merge hsections r hr

/-- A manifest with the requirements in it that was written is settled. -/
theorem settled_of_holdsDocument {merged : Manifest}
    (hsections : ∀ r ∈ required, r.section_ ∈ Requirement.sections)
    (hlacks : Lacks required path s merged) (hwhole : Value.Whole (.map merged))
    (hholds : s'.HoldsDocument path (.map merged)) : Settled required path s' := by
  obtain ⟨m, ⟨husable, -, cs, -, -, hjson⟩, -, rfl⟩ := hlacks
  have hdocument := (Manifest.document_merge (Json.document_of_read hjson) required).of_whole hwhole
  have hreread := hholds.holdsJson husable hdocument
  rintro merged' hlacks'
  obtain ⟨hadded, -⟩ := (lacks_iff hreread).1 hlacks'
  exact hadded (merge_rereadEntries hsections m)

/-- So is what is left of such a manifest, if it was not written whole. -/
theorem settled_of_take {merged : Manifest} {count : Nat}
    (hsections : ∀ r ∈ required, r.section_ ∈ Requirement.sections)
    (hlacks : Lacks required path s merged)
    (hread : s'.tree.readFile s'.workingDir path
      = .ok ((documentOctets (.map merged)).take count)) :
    Settled required path s' := by
  obtain ⟨m, ⟨-, -, cs, -, -, hjson⟩, -, rfl⟩ := hlacks
  have hdocument := Manifest.document_merge (Json.document_of_read hjson) required
  intro merged' hlacks'
  by_cases hwhole : Value.Whole (.map (m.merge required).1)
  · obtain ⟨m', hholds, hadded, -⟩ := hlacks'
    obtain rfl : m' = Value.rereadEntries (m.merge required).1 :=
      Value.map.inj (hholds.eq_of_take (hdocument.of_whole hwhole) hread)
    exact hadded (merge_rereadEntries hsections m)
  · rw [documentOctets_of_not_whole hdocument.writable hwhole, List.take_nil] at hread
    exact ne_empty_of_lacks hlacks' hread

/-! ## What becomes of a manifest -/

/-- From one session to the other the manifest stays as it is, and is settled if the work on it was
completed; or it was not settled and is now, and the package manager was called at most once.  Only
in the second case it may have been written. -/
inductive Settles (required : List Requirement) (path : Path) (completed written : Prop)
    (s s' : Session) : Prop where
  | stays : Untouched path s s' → ¬ written → (completed → Settled required path s) →
      Settles required path completed written s s'
  | settles {found : Utf8.Octets} {calls : List InstallCall} : ¬ Settled required path s →
      Settled required path s' → octets path s' = .ok found →
      s'.installCalls = s.installCalls ++ calls → calls.length ≤ 1 →
      Settles required path completed written s s'

/-- What leaves the manifest and the package manager alone before and behind makes no difference. -/
theorem Settles.extend {completed written : Prop} {s₀ s₁ : Session}
    (h : Settles required path completed written s s') (hbefore : Untouched path s₀ s)
    (hbehind : Untouched path s' s₁) : Settles required path completed written s₀ s₁ := by
  cases h with
  | stays hsame hwritten hcompleted =>
    exact .stays ((hbefore.trans hsame).trans hbehind) hwritten
      fun hdone => (hcompleted hdone).of_octets hbefore.octets.symm
  | settles hopen hsettled hfound hcalls hcount =>
    refine .settles (fun hs => hopen (hs.of_octets hbefore.octets))
      (hsettled.of_octets hbehind.octets) (hbehind.octets.trans hfound) ?_ hcount
    rw [hbehind.installCalls, hcalls, hbefore.installCalls]

/-- A call of a reconciler leaves the manifest as it is, settled if the call was completed, or it
settles it. -/
theorem settles_reconcile (hsections : ∀ r ∈ required, r.section_ ∈ Requirement.sections)
    (hcwd : s.tree.find? s.workingDir = some .dir)
    (h : (reconcile required path).outcome r s = (x, r', s')) :
    Settles required path (∃ changed, x = .ok changed) (x = .ok true) s s' := by
  cases effect_of_outcome hcwd h with
  | untouched hnone hx hprints =>
    exact .stays (untouched_of_printsTo hprints) hx fun _ => hnone
  | refused hlacks hfault hwhole =>
    refine .stays ⟨rfl, rfl⟩ nofun ?_
    rintro ⟨changed, hdone⟩
    cases hdone
  | brokenOff hlacks hfault hbroken hwrites hread =>
    exact .settles (fun hs => hs _ hlacks) (settled_of_take hsections hlacks hread) hread
      (hwrites.installCalls_eq.trans (List.append_nil _).symm) (Nat.zero_le 1)
  | emptied hlacks hfault hwhole hwrites hempty =>
    have hsettled : Settled required path s' := fun merged hlacks' =>
      ne_empty_of_lacks hlacks' hempty
    exact .settles (fun hs => hs _ hlacks) hsettled hempty
      (hwrites.installCalls_eq.trans (List.append_nil _).symm) (Nat.zero_le 1)
  | written hlacks hfault hwhole hwrites hdocument hcalls =>
    have hinstall : s'.installCalls = s.installCalls ++ r.calls path := by
      rw [hcalls.installCalls_eq, hwrites.installCalls_eq]
    have hdocument' := hdocument.of_callsTo hcalls
    have hsettled := settled_of_holdsDocument hsections hlacks hwhole hdocument'
    obtain ⟨t, found, -, -, hread⟩ := hdocument'
    have hcount : (r.calls path).length ≤ 1 := by
      unfold calls
      split
      · exact Nat.le_refl 1
      · exact Nat.zero_le 1
    exact .settles (fun hs => hs _ hlacks) hsettled hread hinstall hcount

end Reconciler

end DashboardKit
