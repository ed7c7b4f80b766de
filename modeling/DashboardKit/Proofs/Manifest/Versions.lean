import DashboardKit.Proofs.Manifest.Additions

/-!
# Versions that were declared before merging

A package counts as declared by the two sections that count only, and a requirement can belong to
another section.  What that section says of the package is then written over, unless the package is
declared in one of the two sections, or comes to be by a requirement for one of them.  These are
merged first, so that it makes no difference where they stand.

Main statement: `version?_merge`.
-/

set_option autoImplicit false

namespace DashboardKit

namespace Requirement

variable {a b r : Requirement} {s name : Text}

theorem rank_lt_two_iff : r.rank < 2 ↔ r.section_ ∈ sections := by
  rw [rank, sections, List.mem_cons, List.mem_singleton]
  split
  · simp [*]
  · split <;> simp [*]

theorem rank_le_of_place_le (h : a.place ≤ b.place) : a.rank ≤ b.rank := by
  rw [place, place, Prod.Lex.toLex_le_toLex] at h
  omega

/-- Requirements of a package in a section are sorted among each other as they were given. -/
theorem filter_ordered (required : List Requirement) (s name : Text) :
    ((ordered required).filter fun r => r.section_ = s ∧ r.name = name)
      = required.filter fun r => r.section_ = s ∧ r.name = name := by
  have hplace (rs : List Requirement) : (rs.filter fun r => r.section_ = s ∧ r.name = name)
      = (rs.filter fun r => r.place = place ⟨name, [], s⟩).filter
          fun r => r.section_ = s ∧ r.name = name := by
    rw [List.filter_filter]
    refine List.filter_congr fun r _ => ?_
    by_cases hr : r.section_ = s ∧ r.name = name
    · simp [hr, place, rank]
    · simp [hr]
  rw [hplace, hplace required, (stablySorted_ordered required).stable]

end Requirement

namespace Manifest

variable {m : Manifest} {r : Requirement} {rs required : List Requirement} {s name : Text}
  {v : Value}

/-- What a section says of a package. -/
def version? (m : Manifest) (s name : Text) : Option Value :=
  (m.section? s).bind (Entries.get? · name)

/-- What the last of some requirements wants a section to say of a package. -/
def wanted? (rs : List Requirement) (s name : Text) : Option Value :=
  (rs.filter fun r => r.section_ = s ∧ r.name = name).getLast?.map fun r => .text r.versions

/-- A package is declared in a section that counts, or comes to be by a requirement for one. -/
def ComesToCount (m : Manifest) (required : List Requirement) (name : Text) : Prop :=
  m.declares name = true ∨ ∃ r ∈ required, r.section_ ∈ Requirement.sections ∧ r.name = name

instance : Decidable (ComesToCount m required name) :=
  inferInstanceAs (Decidable (_ ∨ ∃ r ∈ required, _))

theorem wanted?_cons (r : Requirement) (rs : List Requirement) (s name : Text) :
    wanted? (r :: rs) s name = (wanted? rs s name).or
      (if r.section_ = s ∧ r.name = name then some (.text r.versions) else none) := by
  unfold wanted?
  by_cases hr : r.section_ = s ∧ r.name = name
  · rw [List.filter_cons, if_pos (decide_eq_true hr), List.getLast?_cons, if_pos hr]
    cases (rs.filter fun r => r.section_ = s ∧ r.name = name).getLast? <;> rfl
  · rw [List.filter_cons, if_neg (by simpa using hr), if_neg hr, Option.or_none]

theorem wanted?_ordered (required : List Requirement) (s name : Text) :
    wanted? (Requirement.ordered required) s name = wanted? required s name := by
  rw [wanted?, wanted?, Requirement.filter_ordered]

/-- What a section that counts says of a package declares it. -/
theorem declares_of_version? (h : m.version? s name = some v) (hs : s ∈ Requirement.sections) :
    m.declares name = true := by
  obtain ⟨entries, hsection, hget⟩ := Option.bind_eq_some_iff.1 h
  exact declares_iff.2 ⟨s, hs, entries, hsection, by rw [Entries.has, hget]; rfl⟩

/-! ## One addition -/

/-- An addition is written under its package in its section, and nowhere else. -/
theorem version?_add : (m.add r).version? s name
    = if r.section_ = s ∧ r.name = name then some (.text r.versions)
      else m.version? s name := by
  by_cases hs : r.section_ = s
  · subst hs
    rw [version?, section?_add_self, Option.bind_some, Entries.get?_set, version?]
    by_cases hname : r.name = name
    · rw [if_pos hname.symm, if_pos ⟨rfl, hname⟩]
    · rw [if_neg (Ne.symm hname), if_neg fun h => hname h.2]
      cases m.section? r.section_ <;> rfl
  · rw [version?, section?_add_of_ne (Ne.symm hs), if_neg fun h => hs h.1, version?]

/-- An addition to a section that does not count declares nothing. -/
theorem declares_add_of_not_mem (h : r.section_ ∉ Requirement.sections) :
    (m.add r).declares name = true ↔ m.declares name = true := by
  rw [declares_iff, declares_iff]
  refine exists_congr fun s => and_congr_right fun hs => ?_
  rw [section?_add_of_ne (ne_of_mem_of_not_mem hs h)]

/-! ## All additions -/

/-- What is said of a package that counts as declared stays, in all sections. -/
theorem version?_addMissing_of_declares (h : m.declares name = true) (rs : List Requirement) :
    (m.addMissing rs).1.version? s name = m.version? s name := by
  induction rs generalizing m with
  | nil => rfl
  | cons r rest ih =>
    rw [addMissing]
    split
    · exact ih h
    · rename_i hmissing
      have hother : ¬ (r.section_ = s ∧ r.name = name) := by
        rintro ⟨-, rfl⟩
        exact hmissing h
      refine (ih (declares_add_of_declares h r)).trans ?_
      rw [version?_add, if_neg hother]

/-- What other sections say of a package stays once a requirement for a section that counts comes
to declare it, and none of them is merged before. -/
theorem version?_addMissing_of_counts (hsorted : rs.Pairwise fun a b => a.rank ≤ b.rank)
    (hcounts : ∃ r ∈ rs, r.section_ ∈ Requirement.sections ∧ r.name = name)
    (hs : s ∉ Requirement.sections) :
    (m.addMissing rs).1.version? s name = m.version? s name := by
  induction rs generalizing m with
  | nil =>
    obtain ⟨r, hr, -⟩ := hcounts
    exact absurd hr List.not_mem_nil
  | cons r rest ih =>
    obtain ⟨hfirst, hrest⟩ := List.pairwise_cons.1 hsorted
    obtain ⟨q, hq, hsection, hname⟩ := hcounts
    have hadded (hr : r.section_ ∈ Requirement.sections ∨ r.name ≠ name) :
        (m.add r).version? s name = m.version? s name := by
      rw [version?_add, if_neg]
      rintro ⟨rfl, rfl⟩
      exact hr.elim hs fun hne => hne rfl
    rw [addMissing]
    by_cases hr : r.name = name
    · -- the requirement in front belongs to a section that counts, as does the one behind it
      have hcount : r.section_ ∈ Requirement.sections := by
        rcases List.mem_cons.1 hq with rfl | hq
        · exact hsection
        · have hrank := hfirst q hq
          have hlast := Requirement.rank_lt_two_iff.2 hsection
          exact Requirement.rank_lt_two_iff.1 (by omega)
      subst hr
      split
      · rename_i hdeclared
        exact version?_addMissing_of_declares hdeclared rest
      · refine (version?_addMissing_of_declares (declares_add hcount) rest).trans ?_
        exact hadded (.inl hcount)
    · have hlater : ∃ q ∈ rest, q.section_ ∈ Requirement.sections ∧ q.name = name := by
        refine ⟨q, (List.mem_cons.1 hq).resolve_left ?_, hsection, hname⟩
        rintro rfl
        exact hr hname
      split
      · exact ih hrest hlater
      · exact (ih hrest hlater).trans (hadded (.inr hr))

/-- What a section says of a package that does not count as declared, and never comes to, is what
the last requirement wants it to say. -/
theorem version?_addMissing_of_not_counts (hmissing : ¬ m.declares name = true)
    (hother : ∀ r ∈ rs, r.name = name → r.section_ ∉ Requirement.sections) :
    (m.addMissing rs).1.version? s name = (wanted? rs s name).or (m.version? s name) := by
  induction rs generalizing m with
  | nil => rfl
  | cons r rest ih =>
    rw [List.forall_mem_cons] at hother
    rw [addMissing, wanted?_cons, Option.or_assoc]
    split
    · rename_i hdeclared
      have hname : ¬ (r.section_ = s ∧ r.name = name) := by
        rintro ⟨-, rfl⟩
        exact hmissing hdeclared
      rw [ih hmissing hother.2, if_neg hname, Option.none_or]
    · have hstill : ¬ (m.add r).declares name = true := by
        by_cases hcount : r.section_ ∈ Requirement.sections
        · rw [declares_add_iff hcount, not_or]
          exact ⟨fun hname => hother.1 hname.symm hcount, hmissing⟩
        · rwa [declares_add_of_not_mem hcount]
      refine (ih hstill hother.2).trans ?_
      rw [version?_add]
      split <;> rfl

/-! ## Merging -/

/-- What a section says of a package stays, if the section counts or the package comes to be
declared in one that does; in another section it becomes what the last requirement wants. -/
theorem version?_merge (h : m.version? s name = some v) :
    (m.merge required).1.version? s name
      = some (if s ∈ Requirement.sections ∨ ComesToCount m required name then v
          else (wanted? required s name).getD v) := by
  have hsorted : (Requirement.ordered required).Pairwise fun a b => a.rank ≤ b.rank :=
    (Requirement.stablySorted_ordered required).in_order.imp Requirement.rank_le_of_place_le
  unfold merge
  by_cases hdeclared : m.declares name = true
  · rw [version?_addMissing_of_declares hdeclared, h, if_pos (.inr (.inl hdeclared))]
  · have hs : s ∉ Requirement.sections := fun hs => hdeclared (declares_of_version? h hs)
    by_cases hcounts : ∃ r ∈ required, r.section_ ∈ Requirement.sections ∧ r.name = name
    · have hordered := hcounts.imp fun r hr => And.imp_left mem_ordered.2 hr
      rw [version?_addMissing_of_counts hsorted hordered hs, h, if_pos (.inr (.inr hcounts))]
    · have hother : ∀ r ∈ Requirement.ordered required, r.name = name →
          r.section_ ∉ Requirement.sections :=
        fun r hr hname hsection => hcounts ⟨r, mem_ordered.1 hr, hsection, hname⟩
      have hnot : ¬ (s ∈ Requirement.sections ∨ ComesToCount m required name) := by
        rintro (hmem | hdecl | hreq)
        · exact hs hmem
        · exact hdeclared hdecl
        · exact hcounts hreq
      rw [version?_addMissing_of_not_counts hdeclared hother, wanted?_ordered, h, if_neg hnot]
      cases wanted? required s name <;> rfl

/-- A manifest that declares one package in a section that does not count and another in one that
does. -/
def pluginManifest : Manifest :=
  [(.text "peerDependencies", .map [(.text "react", .text "^17"), (.text "mqtt", .text "^4")]),
    (.text "devDependencies", .map [(.text "postcss", .text "^8")])]

/-- Requirements for sections of both kinds, out of order. -/
def pluginRequired : List Requirement :=
  [⟨"react", "^18", "peerDependencies"⟩, ⟨"mqtt", "^6", "peerDependencies"⟩,
    ⟨"react", "^19", "peerDependencies"⟩, ⟨"mqtt", "^5", Requirement.runtime⟩]

/-- What is said of the same section differs: one package is written over by the last requirement,
and the other one, which comes to be declared in a section that counts, stays. -/
theorem version?_merge_pluginManifest :
    (pluginManifest.version? "peerDependencies" "react" = some (.text "^17") ∧
        (pluginManifest.merge pluginRequired).1.version? "peerDependencies" "react"
          = some (.text "^19")) ∧
      pluginManifest.version? "peerDependencies" "mqtt" = some (.text "^4") ∧
        (pluginManifest.merge pluginRequired).1.version? "peerDependencies" "mqtt"
          = some (.text "^4") := by
  have hreact : pluginManifest.version? "peerDependencies" "react" = some (.text "^17") := rfl
  have hmqtt : pluginManifest.version? "peerDependencies" "mqtt" = some (.text "^4") := rfl
  exact ⟨⟨hreact, version?_merge hreact⟩, hmqtt, version?_merge hmqtt⟩

/-- Merging can write over a version that is declared. -/
theorem exists_version_overwritten :
    ¬ ∀ (m : Manifest) (required : List Requirement) (s name : Text) (v : Value),
      m.version? s name = some v → (m.merge required).1.version? s name = some v := by
  intro hall
  have hkept := hall [(.text "peerDependencies", .map [(.text "react", .text "^17")])]
    [⟨"react", "^18", "peerDependencies"⟩] "peerDependencies" "react" (.text "^17") rfl
  rw [merge, Requirement.ordered, List.mergeSort_singleton] at hkept
  cases hkept

end Manifest

end DashboardKit
