import DashboardKit.Proofs.Manifest.Frame
import DashboardKit.Proofs.Manifest.Troubles
import DashboardKit.Proofs.Text.Encoding

/-!
# What becomes of a manifest

A call of a reconciler has one of five effects on the files and on the package manager, whatever the
manifest holds, whatever is required and whatever the reconciler remembers.  Only the effect of a
call that gives `true` is meant to be one.  The others leave the manifest as it was, but for two:
one that cannot be encoded with the requirements in it is emptied before this comes out, and of one
that the disk breaks off a beginning is left.

Main statements: `effect_of_outcome` and `reconcile_manifest`.
-/

set_option autoImplicit false

namespace DashboardKit.Reconciler

open Session DashboardKit.Action

variable {r r' : Reconciler} {required : List Requirement} {path : Path} {s s' : Session}
  {x : Except Failure Bool}

/-- What a call of a reconciler does to the files and the package manager: what it gives, and the
session that it leaves. -/
inductive Effect (r : Reconciler) (required : List Requirement) (path : Path) (s : Session) :
    Except Failure Bool → Session → Prop where
  /-- nothing is lacking, or what is lacking cannot be told -/
  | untouched {x : Except Failure Bool} {s' : Session} :
      (∀ merged, ¬ Lacks required path s merged) → x ≠ .ok true → PrintsTo s s' →
      Effect r required path s x s'
  /-- the file system does not let the manifest be written -/
  | refused {merged : Manifest} {fault : FileFault} : Lacks required path s merged →
      saveFault? path merged s = some fault → (∀ count, ¬ SaveBrokenOff path merged s count) →
      Effect r required path s (.error (.dependency (.manifestUnwritable path fault))) s
  /-- the disk breaks off before the manifest is written -/
  | brokenOff {merged : Manifest} {count : Nat} {fault : FileFault} {s' : Session} :
      Lacks required path s merged → saveFault? path merged s = some fault →
      SaveBrokenOff path merged s count → WritesTo s s' →
      s'.tree.readFile s'.workingDir path = .ok ((documentOctets (.map merged)).take count) →
      Effect r required path s (.error (.dependency (.manifestUnwritable path fault))) s'
  /-- with the requirements in it the manifest cannot be encoded -/
  | emptied {merged : Manifest} {f : Failure} {s' : Session} : Lacks required path s merged →
      saveFault? path merged s = none → ¬ Value.Whole (.map merged) → WritesTo s s' →
      s'.tree.readFile s'.workingDir path = .ok [] → Effect r required path s (.error f) s'
  /-- the manifest is written, and after that the package manager is called if it is to be -/
  | written {merged : Manifest} {mid s' : Session} : Lacks required path s merged →
      saveFault? path merged s = none → Value.Whole (.map merged) → WritesTo s mid →
      mid.HoldsDocument path (.map merged) → CallsTo (r.calls path) mid s' →
      Effect r required path s (.ok true) s'

/-- The manifest lacks requirements and is opened for writing in vain: it cannot be encoded with
them, or the disk breaks off and leaves other octets than there were. -/
def Spoils (required : List Requirement) (path : Path) (s : Session) : Prop :=
  ∃ merged, Lacks required path s merged ∧
    (saveFault? path merged s = none ∧ ¬ Value.Whole (.map merged) ∨
      ∃ count, SaveBrokenOff path merged s count ∧
        s.tree.readFile s.workingDir path ≠ .ok ((documentOctets (.map merged)).take count))

/-! ## Effects -/

/-- What is read as a manifest is a document that the file holds. -/
theorem holds_of_readManifest {m : Manifest} (h : (readManifest path).outcome s = (.ok m, s')) :
    s.HoldsJson path (.ok (.map m)) := by
  obtain ⟨v, mid, hload, hmap⟩ := outcome_bind_eq_ok.1 h
  have hload' : (loadJson path).outcome s = (.ok v, mid) := by
    refine (outcome_tryCatch_eq_ok ?_).1 hload
    intro f s₁ v' s₂
    cases f <;> simp
  split at hmap
  · obtain ⟨rfl, -⟩ := outcome_pure_eq_ok.1 hmap
    exact holds_of_loadJson hload'
  · simp at hmap

theorem lacks_iff {m merged : Manifest} (h : s.HoldsJson path (.ok (.map m))) :
    Lacks required path s merged ↔
      (m.merge required).2 ≠ [] ∧ (m.merge required).1 = merged := by
  constructor
  · rintro ⟨m', hholds, hlacks⟩
    obtain ⟨rfl⟩ : m = m' := by simpa using h.unique hholds
    exact hlacks
  · intro hlacks
    exact ⟨m, h, hlacks⟩

/-- There is one way to merge in what is lacking. -/
theorem Lacks.unique {merged merged' : Manifest} (h : Lacks required path s merged)
    (h' : Lacks required path s merged') : merged = merged' := by
  obtain ⟨m, hholds, -, rfl⟩ := h
  exact ((lacks_iff hholds).1 h').2

/-- Every call has one of the five effects. -/
theorem effect_of_outcome (hcwd : s.tree.find? s.workingDir = some .dir)
    (h : (reconcile required path).outcome r s = (x, r', s')) :
    Effect r required path s x s' := by
  rcases hmanifest : (readManifest path).outcome s with ⟨f | m, mid⟩
  · -- the manifest is not read
    obtain rfl := (keeps_readManifest path).of_outcome hmanifest
    rw [outcome_reconcile_of_error (outcome_patchManifest_of_error hmanifest)] at h
    cases h
    refine .untouched ?_ nofun (refl_of PrintsTo s)
    rintro merged ⟨m, hholds, -⟩
    have hread := (outcome_readManifest_of_ok (outcome_loadJson_of_holds hholds)).1 m rfl
    rw [hmanifest] at hread
    cases hread
  · have hholds := holds_of_readManifest hmanifest
    by_cases hadded : (m.merge required).2 = []
    · -- the manifest lacks nothing
      obtain ⟨s₁, hprints, hpatch⟩ := outcome_patchManifest_of_complete hholds hadded
      rw [outcome_reconcile_of_complete hpatch] at h
      cases h
      refine .untouched ?_ nofun hprints
      intro merged hlacks
      exact ((lacks_iff hholds).1 hlacks).1 hadded
    · have hlacks := (lacks_iff hholds).2 ⟨hadded, rfl⟩
      obtain ⟨added, -, hpatch⟩ := outcome_patchManifest_of_lacks hlacks
      cases hfault : saveFault? path (m.merge required).1 s with
      | some fault =>
        obtain ⟨s₁, hwrite, hleft⟩ := outcome_writeManifest_of_fault hcwd hlacks hfault
        rw [outcome_bind_of_error hwrite] at hpatch
        rw [outcome_reconcile_of_error hpatch] at h
        cases h
        obtain ⟨rfl, hwhole⟩ | ⟨count, hbroken, hwrites, hread⟩ := hleft
        · exact .refused hlacks hfault hwhole
        · exact .brokenOff hlacks hfault hbroken hwrites hread
      | none =>
        by_cases hwhole : Value.Whole (.map (m.merge required).1)
        · obtain ⟨added, mid, s₁, hwrites, hdocument, hcalls, hrun⟩ :=
            outcome_reconcile_of_lacks hcwd hlacks hfault hwhole r
          rw [hrun] at h
          cases h
          exact .written hlacks hfault hwhole hwrites hdocument hcalls
        · obtain ⟨s₁, hwrites, ⟨hwhole', -⟩ | ⟨-, hempty, t, fault, hwrite⟩⟩ :=
            outcome_writeManifest hcwd hlacks hfault
          · exact absurd hwhole' hwhole
          · rw [outcome_bind_of_error hwrite] at hpatch
            rw [outcome_reconcile_of_error hpatch] at h
            cases h
            exact .emptied hlacks hfault hwhole hwrites hempty

/-! ## Manifests afterwards -/

/-- An empty file lacks no requirements: it is no document. -/
theorem ne_empty_of_lacks {merged : Manifest} (h : Lacks required path s merged) :
    s.tree.readFile s.workingDir path ≠ .ok [] := by
  intro hempty
  obtain ⟨m, ⟨-, octets, cs, hread, hdecode, hjson⟩, -⟩ := h
  rw [hempty, Except.ok.injEq] at hread
  subst hread
  obtain rfl := Except.ok.inj (Utf8.read_nil.symm.trans hdecode)
  cases hjson

/-- A call that gives `true` leaves the merged manifest, as it is written.  Any other does not call
the package manager and leaves the octets of the manifest as they were, unless it spoils it. -/
theorem reconcile_manifest (hcwd : s.tree.find? s.workingDir = some .dir)
    (h : (reconcile required path).outcome r s = (x, r', s')) :
    (x = .ok true →
        ∃ merged, Lacks required path s merged ∧ s'.HoldsDocument path (.map merged)) ∧
      (x ≠ .ok true →
        s'.installCalls = s.installCalls ∧
          (s'.tree.readFile s'.workingDir path = s.tree.readFile s.workingDir path ↔
            ¬ Spoils required path s)) := by
  cases effect_of_outcome hcwd h with
  | untouched hnone hx hprints =>
    unfold PrintsTo at hprints
    refine ⟨fun htrue => absurd htrue hx, fun _ => ?_⟩
    rw [hprints]
    refine ⟨rfl, iff_of_true rfl ?_⟩
    rintro ⟨merged, hlacks, -⟩
    exact hnone merged hlacks
  | refused hlacks hfault hwhole =>
    refine ⟨nofun, fun _ => ⟨rfl, iff_of_true rfl ?_⟩⟩
    rintro ⟨merged, hlacks', ⟨hnone, -⟩ | ⟨count, hbroken, -⟩⟩ <;>
      obtain rfl := hlacks.unique hlacks'
    · cases hfault.symm.trans hnone
    · exact hwhole count hbroken
  | brokenOff hlacks hfault hbroken hwrites hread =>
    refine ⟨nofun, fun _ => ⟨hwrites.installCalls_eq, ?_⟩⟩
    rw [hread]
    constructor
    · rintro hsame ⟨merged, hlacks', ⟨hnone, -⟩ | ⟨count, hbroken', hother⟩⟩ <;>
        obtain rfl := hlacks.unique hlacks'
      · cases hfault.symm.trans hnone
      · obtain rfl := hbroken.unique hbroken'
        exact hother hsame.symm
    · intro hnot
      by_contra hother
      exact hnot ⟨_, hlacks, .inr ⟨_, hbroken, Ne.symm hother⟩⟩
  | emptied hlacks hfault hwhole hwrites hempty =>
    refine ⟨nofun, fun _ => ⟨hwrites.installCalls_eq, iff_of_false ?_ ?_⟩⟩
    · rw [hempty]
      exact (ne_empty_of_lacks hlacks).symm
    · exact fun hnot => hnot ⟨_, hlacks, .inl ⟨hfault, hwhole⟩⟩
  | written hlacks hfault hwhole hwrites hdocument hcalls =>
    exact ⟨fun _ => ⟨_, hlacks, hdocument.of_callsTo hcalls⟩, fun hnot => absurd rfl hnot⟩

/-- A session in a project with this manifest. -/
def sessionWith (manifest : String) : Session :=
  .start ⟨[
      (["project"], .dir),
      (["project", "package.json"], .file (Utf8.encodeChars manifest.toList))]⟩
    ["project"] ⟨.root, ["templates"]⟩ []

/-- The path of that manifest. -/
def manifestPath : Path := ⟨.here, ["package.json"]⟩

/-- A manifest that declares nothing. -/
def bareManifest : String := "\x7b\x7d"

/-- A single requirement. -/
def mqtt : Requirement := ⟨"mqtt", "^5.3.5", Requirement.runtime⟩

/-- A manifest that declares nothing is written with what is required. -/
theorem reconcile_bare_manifest :
    (sessionWith bareManifest).tree.find? (sessionWith bareManifest).workingDir = some .dir ∧
      ∃ r' s', (reconcile [mqtt] manifestPath).outcome (.new [] true)
          (sessionWith bareManifest) = (.ok true, r', s') ∧
        ∃ merged, Lacks [mqtt] manifestPath (sessionWith bareManifest) merged ∧
          s'.HoldsDocument manifestPath (.map merged) := by
  have hcwd : (sessionWith bareManifest).tree.find? (sessionWith bareManifest).workingDir
      = some .dir := by decide
  have hgives : ((reconcile [mqtt] manifestPath).outcome (.new [] true)
      (sessionWith bareManifest)).1.toOption = some true := by decide +kernel
  rcases hrun : (reconcile [mqtt] manifestPath).outcome (.new [] true)
    (sessionWith bareManifest) with ⟨f | changed, r', s'⟩ <;> rw [hrun] at hgives
  · cases hgives
  · obtain rfl : changed = true := by simpa [Except.toOption] using hgives
    exact ⟨hcwd, r', s', rfl, (reconcile_manifest hcwd hrun).1 rfl⟩

/-- A manifest with a lone surrogate. -/
def brokenManifest : String := "\x7b\"name\": \"\\ud800\"\x7d"

/-- A call that fails may leave another manifest than the one it found. -/
theorem exists_manifest_emptied :
    ¬ ∀ (required : List Requirement) (path : Path) (r r' : Reconciler) (s s' : Session)
      (x : Except Failure Bool), s.tree.find? s.workingDir = some .dir →
        (reconcile required path).outcome r s = (x, r', s') → x ≠ .ok true →
          s'.tree.readFile s'.workingDir path = s.tree.readFile s.workingDir path := by
  intro hall
  have hfails : ((reconcile [mqtt] manifestPath).outcome (.new [] false)
      (sessionWith brokenManifest)).1.toOption = none := by decide +kernel
  have hempty : (fun s' => s'.tree.readFile s'.workingDir manifestPath)
      ((reconcile [mqtt] manifestPath).outcome (.new [] false) (sessionWith brokenManifest)).2.2
        = .ok [] := by decide +kernel
  rcases hrun : (reconcile [mqtt] manifestPath).outcome (.new [] false)
    (sessionWith brokenManifest) with ⟨x, r', s'⟩
  rw [hrun] at hfails hempty
  have hx : x ≠ .ok true := by
    rintro rfl
    cases hfails
  have hsame := hall _ _ _ _ _ _ _ (by decide) hrun hx
  have hbefore : ([] : Utf8.Octets) = Utf8.encodeChars brokenManifest.toList :=
    Except.ok.inj (hempty.symm.trans hsame)
  exact absurd hbefore (by decide +kernel)

end DashboardKit.Reconciler
