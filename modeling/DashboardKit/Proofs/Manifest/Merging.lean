import DashboardKit.Manifest.Requirement
import DashboardKit.Proofs.Json.Reading

/-!
# Merging requirements into a manifest

Merging puts texts under texts, in sections that are there or new ones, so that a document stays
one.  Afterwards all requirements are declared, if they belong to a section that counts, and a
package that was declared stays so; merging them again therefore adds nothing.

Main statements: `document_merge`, `merge_snd_eq_nil_iff` and `declares_merge`.
-/

set_option autoImplicit false

namespace DashboardKit.Manifest

variable {P : Text → Prop} {m : Manifest} {entries : Entries} {name : Text} {r : Requirement}
  {required : List Requirement}

/-- A section is a map under its name. -/
theorem section?_eq_some_iff : m.section? name = some entries ↔
    Entries.get? m name = some (.map entries) := by
  rw [section?]
  split
  · rename_i entries' hget
    simp [hget]
  · rename_i hother
    simpa using hother entries

/-! ## Documents -/

/-- The texts that a requirement brings into a manifest have a property. -/
def Brings (P : Text → Prop) (r : Requirement) : Prop := P r.section_ ∧ P r.name ∧ P r.versions

theorem document_section (hm : Value.Document P (.map m)) :
    Value.Document P (.map ((m.section? name).getD [])) := by
  cases hsection : m.section? name with
  | none => exact Value.document_nil
  | some entries =>
    have hmem := Entries.mem_of_get? (section?_eq_some_iff.1 hsection)
    exact ((Value.document_map.1 hm).2 _ hmem).2

theorem document_set (hentries : Value.Document P (.map entries)) {v : Value}
    (hv : v.Document P) (hname : P name) :
    Value.Document P (.map (Entries.set entries name v)) := by
  obtain ⟨hnodup, hall⟩ := Value.document_map.1 hentries
  exact Value.document_map.2 ⟨Entries.nodup_keys_insert_text hnodup name v,
    Entries.forall_insert (K := fun a => ∃ t, a = .text t ∧ P t) ⟨name, rfl, hname⟩ hv hall⟩

theorem document_add (hm : Value.Document P (.map m)) (hr : Brings P r) :
    Value.Document P (.map (add m r)) := by
  obtain ⟨hsection, hname, hversions⟩ := hr
  exact document_set hm (document_set (document_section hm) (.atom hversions) hname) hsection

theorem document_addMissing {rs : List Requirement} (hm : Value.Document P (.map m))
    (hrs : ∀ r ∈ rs, Brings P r) : Value.Document P (.map (m.addMissing rs).1) := by
  induction rs generalizing m with
  | nil => exact hm
  | cons r rest ih =>
    rw [List.forall_mem_cons] at hrs
    rw [addMissing]
    split
    · exact ih hm hrs.2
    · exact ih (document_add hm hrs.1) hrs.2

theorem mem_ordered : r ∈ Requirement.ordered required ↔ r ∈ required :=
  (List.mergeSort_perm required Requirement.atMost).mem_iff

theorem document_merge_of (hm : Value.Document P (.map m))
    (hrequired : ∀ r ∈ required, Brings P r) :
    Value.Document P (.map (m.merge required).1) :=
  document_addMissing hm fun r hr => hrequired r (mem_ordered.1 hr)

/-- A manifest that was read is a document after requirements were merged into it. -/
theorem document_merge (hm : Value.Document (fun _ => True) (.map m))
    (required : List Requirement) : Value.Document (fun _ => True) (.map (m.merge required).1) :=
  document_merge_of hm fun _ _ => ⟨trivial, trivial, trivial⟩

theorem declares_iff : m.declares name = true ↔ ∃ s ∈ Requirement.sections, ∃ entries,
    m.section? s = some entries ∧ Entries.has entries name = true := by
  rw [declares, List.any_eq_true]
  refine exists_congr fun s => and_congr_right fun _ => ?_
  cases m.section? s <;> simp

theorem has_set {id : Text} {v : Value} :
    Entries.has (entries.set name v) id = true ↔ id = name ∨ Entries.has entries id = true := by
  unfold Entries.has
  rw [Entries.get?_set]
  split <;> simp [*]

/-- A requirement is added to its section. -/
theorem section?_add_self : (m.add r).section? r.section_
    = some (Entries.set ((m.section? r.section_).getD []) r.name (.text r.versions)) := by
  rw [section?_eq_some_iff, add, Entries.get?_set, if_pos rfl]

/-- No other section is changed. -/
theorem section?_add_of_ne {s : Text} (h : s ≠ r.section_) :
    (m.add r).section? s = m.section? s := by
  unfold add section?
  rw [Entries.get?_set, if_neg h]

/-- What was added is declared, if its section counts. -/
theorem declares_add (h : r.section_ ∈ Requirement.sections) :
    (m.add r).declares r.name = true :=
  declares_iff.2 ⟨r.section_, h, _, section?_add_self, has_set.2 (.inl rfl)⟩

/-- What was declared stays declared. -/
theorem declares_add_of_declares (h : m.declares name = true) (r : Requirement) :
    (m.add r).declares name = true := by
  obtain ⟨s, hs, entries, hsection, hhas⟩ := declares_iff.1 h
  by_cases hsame : s = r.section_
  · subst hsame
    refine declares_iff.2 ⟨_, hs, _, section?_add_self, has_set.2 (.inr ?_)⟩
    rw [hsection]
    exact hhas
  · exact declares_iff.2 ⟨s, hs, entries, (section?_add_of_ne hsame).trans hsection, hhas⟩

theorem declares_addMissing_of_declares (h : m.declares name = true) (rs : List Requirement) :
    (m.addMissing rs).1.declares name = true := by
  induction rs generalizing m with
  | nil => exact h
  | cons r rest ih =>
    rw [addMissing]
    split
    · exact ih h
    · exact ih (declares_add_of_declares h r)

theorem declares_addMissing {rs : List Requirement}
    (h : ∀ r ∈ rs, r.section_ ∈ Requirement.sections) :
    ∀ r ∈ rs, (m.addMissing rs).1.declares r.name = true := by
  induction rs generalizing m with
  | nil => exact fun _ hr => absurd hr List.not_mem_nil
  | cons r rest ih =>
    rw [List.forall_mem_cons] at h ⊢
    rw [addMissing]
    split
    · rename_i hdeclared
      exact ⟨declares_addMissing_of_declares hdeclared rest, ih h.2⟩
    · exact ⟨declares_addMissing_of_declares (declares_add h.1) rest, ih h.2⟩

/-- Nothing is added exactly if all of it is declared. -/
theorem addMissing_snd_eq_nil_iff {rs : List Requirement} :
    (m.addMissing rs).2 = [] ↔ ∀ r ∈ rs, m.declares r.name = true := by
  induction rs with
  | nil => exact iff_of_true rfl fun _ hr => absurd hr List.not_mem_nil
  | cons r rest ih =>
    rw [addMissing, List.forall_mem_cons]
    split
    · rename_i hdeclared
      rw [ih, and_iff_right hdeclared]
    · rename_i hdeclared
      exact iff_of_false (List.cons_ne_nil _ _) fun h => hdeclared h.1

/-- Merging adds nothing exactly if all that is required is declared. -/
theorem merge_snd_eq_nil_iff :
    (m.merge required).2 = [] ↔ ∀ r ∈ required, m.declares r.name = true := by
  rw [merge, addMissing_snd_eq_nil_iff]
  exact forall_congr' fun r => imp_congr_left mem_ordered

/-- After merging all that is required is declared. -/
theorem declares_merge (h : ∀ r ∈ required, r.section_ ∈ Requirement.sections) :
    ∀ r ∈ required, (m.merge required).1.declares r.name = true := by
  intro r hr
  exact declares_addMissing (fun r hr => h r (mem_ordered.1 hr)) r (mem_ordered.2 hr)

end DashboardKit.Manifest
