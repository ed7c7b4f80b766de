import DashboardKit.Proofs.Manifest.Merging
import DashboardKit.Proofs.Manifest.Ordering
import DashboardKit.Proofs.Value.Entries

/-!
# What merging adds

Of the requirements in order, merging adds the first one for every package that is not declared.  A
section that gets some of them keeps its entries and has the new ones behind them; a section that
was not there comes last.  All else stays as it is and where it is.

The manifest changes while requirements are looked up in it.  What carries the induction is that a
package counts as declared once it was added, so that the requirements that are left lose all that
name this package.

Main statement: `merge_adds_missing`.
-/

set_option autoImplicit false

namespace DashboardKit

namespace Entries

variable {es : Entries} {t : Text} {v w : Value}

/-- With keys that are all different, an entry is found under its key. -/
theorem get?_of_mem (h : (es.map (·.1)).Nodup) (hmem : (.text t, v) ∈ es) : es.get? t = some v := by
  induction es with
  | nil => exact absurd hmem List.not_mem_nil
  | cons e es ih =>
    obtain ⟨a, u⟩ := e
    rw [List.map_cons, List.nodup_cons] at h
    rw [get?_cons]
    rcases List.mem_cons.1 hmem with heq | hrest
    · obtain ⟨rfl, rfl⟩ := Prod.mk.inj heq
      rw [if_pos rfl]
    · have hne : a ≠ .text t := by
        rintro rfl
        exact h.1 (List.mem_map.2 ⟨_, hrest, rfl⟩)
      rw [if_neg hne, ih h.2 hrest]

theorem has_iff : es.has t = true ↔ .text t ∈ es.map (·.1) := by
  rw [has, Option.isSome_iff_exists]
  induction es with
  | nil => simp [get?, find?]
  | cons e es ih =>
    obtain ⟨a, u⟩ := e
    rw [List.map_cons, List.mem_cons, get?_cons]
    by_cases ha : a = .text t
    · rw [if_pos ha]
      exact iff_of_true ⟨u, rfl⟩ (.inl ha.symm)
    · rw [if_neg ha, ih, or_iff_right (Ne.symm ha)]

/-- Entries are looked for in the first of two lists and then in the second. -/
theorem get?_append (es es' : Entries) (t : Text) :
    get? (es ++ es') t = (get? es t).or (get? es' t) := by
  induction es with
  | nil => rfl
  | cons e es ih =>
    obtain ⟨a, u⟩ := e
    rw [List.cons_append, get?_cons, get?_cons, ih]
    split <;> rfl

/-- What stands under each of some text keys is found there. -/
theorem get?_map_keys (keys : List Text) (f : Text → Value) (t : Text) :
    get? (keys.map fun s => (.text s, f s)) t = if t ∈ keys then some (f t) else none := by
  induction keys with
  | nil => rfl
  | cons s keys ih =>
    rw [List.map_cons, get?_cons, ih]
    by_cases hs : s = t
    · subst hs
      simp
    · simp [hs, Ne.symm hs]

/-- With keys that are all different, a value is put in the place of the one under its key. -/
theorem set_of_has (h : (es.map (·.1)).Nodup) (hhas : es.has t = true) (v : Value) :
    es.set t v = es.map fun e => if e.1 = .text t then (e.1, v) else e := by
  rw [has_iff] at hhas
  unfold set
  induction es with
  | nil => exact absurd hhas List.not_mem_nil
  | cons e es ih =>
    obtain ⟨a, u⟩ := e
    rw [List.map_cons, List.nodup_cons] at h
    rw [insert, List.map_cons]
    by_cases ha : a = .text t
    · subst ha
      have hrest : es.map (fun e => if e.1 = .text t then (e.1, v) else e) = es.map id := by
        refine List.map_congr_left fun e he => if_neg fun hkey => h.1 ?_
        exact List.mem_map.2 ⟨e, he, hkey⟩
      rw [if_pos (Atom.sameKey_text_iff.2 rfl), if_pos rfl, hrest, List.map_id]
    · rw [List.map_cons, List.mem_cons, or_iff_right (Ne.symm ha)] at hhas
      rw [if_neg fun hsame => ha (Atom.sameKey_text_iff.1 hsame), if_neg ha, ih h.2 hhas]

/-- A value under a new key comes last. -/
theorem set_of_not_has (h : es.has t = false) (v : Value) : es.set t v = es ++ [(.text t, v)] := by
  refine insert_text_of_not_mem ?_ v
  rw [← has_iff, h]
  exact Bool.noConfusion

end Entries

namespace Manifest

variable {m : Manifest} {r : Requirement} {rs required added : List Requirement} {s name : Text}

/-! ## Additions -/

/-- The entries of a section; what is no map has none. -/
def entriesOf : Value → Entries
  | .map entries => entries
  | _ => []

@[simp] theorem entriesOf_map (entries : Entries) : entriesOf (.map entries) = entries := rfl

/-- What was added to a section, in order. -/
def additions (added : List Requirement) (s : Text) : Entries :=
  (added.filter fun r => r.section_ = s).map fun r => (.text r.name, .text r.versions)

/-- An entry of a manifest with what was added to it, if it is a section that got something. -/
def extended (added : List Requirement) (e : Atom × Value) : Atom × Value :=
  match e.1 with
  | .text s =>
    if (additions added s).isEmpty then e
    else (e.1, .map (entriesOf e.2 ++ additions added s))
  | _ => e

/-- The sections that were not there before something was added to them, in the order in which they
got it. -/
def newSections (m : Manifest) (added : List Requirement) : List Text :=
  ((added.map (·.section_)).filter fun s => !Entries.has m s).eraseDups

/-- A manifest with what was added: sections are extended in their places and new ones come last. -/
def extendedBy (m : Manifest) (added : List Requirement) : Manifest :=
  m.map (extended added) ++ (newSections m added).map fun s => (.text s, .map (additions added s))

theorem additions_cons (r : Requirement) (rs : List Requirement) (s : Text) :
    additions (r :: rs) s
      = if r.section_ = s then (.text r.name, .text r.versions) :: additions rs s
        else additions rs s := by
  unfold additions
  rw [List.filter_cons]
  by_cases h : r.section_ = s <;> simp [h]

theorem extendedBy_nil (m : Manifest) : m.extendedBy [] = m := by
  have hextended : extended [] = id := by
    funext e
    unfold extended
    split <;> rfl
  simp [extendedBy, hextended, newSections]

/-! ## One addition -/

/-- The entries of a section are the ones of what stands under its name. -/
theorem getD_section? (m : Manifest) (s : Text) :
    (m.section? s).getD [] = entriesOf ((Entries.get? m s).getD .null) := by
  unfold section? entriesOf
  rcases Entries.get? m s with _ | v
  · rfl
  · cases v <;> rfl

/-- A package that is not declared is not in any of the sections that count. -/
theorem not_has_of_not_declares (h : m.declares name = false) (hs : s ∈ Requirement.sections) :
    Entries.has ((m.section? s).getD []) name = false := by
  rw [← Bool.not_eq_true]
  intro hhas
  rcases hsection : m.section? s with _ | entries
  · rw [hsection] at hhas
    exact absurd hhas (by simp [Entries.has, Entries.get?, Entries.find?])
  · rw [hsection] at hhas
    have hdeclared := declares_iff.2 ⟨s, hs, entries, hsection, hhas⟩
    rw [h] at hdeclared
    cases hdeclared

/-- What is added to a manifest comes last in its section. -/
theorem add_eq (hnew : Entries.has ((m.section? r.section_).getD []) r.name = false) :
    m.add r = Entries.set m r.section_
      (.map ((m.section? r.section_).getD [] ++ [(.text r.name, .text r.versions)])) := by
  rw [add, Entries.set_of_not_has hnew]

theorem nodup_keys_add (h : (m.map (·.1)).Nodup) (r : Requirement) :
    ((m.add r).map (·.1)).Nodup :=
  Entries.nodup_keys_insert_text h _ _

theorem has_add : Entries.has (m.add r) s = true ↔ s = r.section_ ∨ Entries.has m s = true :=
  has_set

/-- A package is declared after an addition if it was before or was added. -/
theorem declares_add_iff (h : r.section_ ∈ Requirement.sections) :
    (m.add r).declares name = true ↔ name = r.name ∨ m.declares name = true := by
  constructor
  · intro hdeclared
    obtain ⟨s, hs, entries, hsection, hhas⟩ := declares_iff.1 hdeclared
    by_cases hsame : s = r.section_
    · subst hsame
      rw [section?_add_self, Option.some.injEq] at hsection
      subst hsection
      refine (has_set.1 hhas).imp_right fun hhas => ?_
      rcases hold : m.section? r.section_ with _ | entries
      · rw [hold] at hhas
        exact absurd hhas (by simp [Entries.has, Entries.get?, Entries.find?])
      · rw [hold] at hhas
        exact declares_iff.2 ⟨_, hs, entries, hold, hhas⟩
    · rw [section?_add_of_ne hsame] at hsection
      exact .inr (declares_iff.2 ⟨s, hs, entries, hsection, hhas⟩)
  · rintro (rfl | hdeclared)
    · exact declares_add h
    · exact declares_add_of_declares hdeclared r

theorem additions_cons_self (r : Requirement) (rs : List Requirement) :
    additions (r :: rs) r.section_
      = (.text r.name, .text r.versions) :: additions rs r.section_ := by
  rw [additions_cons, if_pos rfl]

/-- An entry that is not the section of a requirement does not change with it. -/
theorem extended_cons_of_ne {e : Atom × Value} (h : e.1 ≠ .text r.section_) :
    extended (r :: rs) e = extended rs e := by
  unfold extended
  split
  · rename_i s hs
    have hne : r.section_ ≠ s := by
      rintro rfl
      exact h hs
    rw [additions_cons, if_neg hne]
  · rfl

/-- A section is extended by a requirement first and then by the others. -/
theorem extended_cons_self (r : Requirement) (rs : List Requirement) (v : Value) :
    extended (r :: rs) (.text r.section_, v)
      = extended rs
        (.text r.section_, .map (entriesOf v ++ [(.text r.name, .text r.versions)])) := by
  unfold extended
  simp only [additions_cons_self, List.isEmpty_cons, entriesOf_map, List.append_assoc,
    List.singleton_append, Bool.false_eq_true, if_false]
  cases additions rs r.section_ <;> rfl

theorem newSections_cons (r : Requirement) (rs : List Requirement) :
    newSections m (r :: rs)
      = if Entries.has m r.section_ = true then newSections (m.add r) rs
        else r.section_ :: newSections (m.add r) rs := by
  unfold newSections
  rw [List.map_cons]
  split
  · rename_i hhas
    rw [List.filter_cons_of_neg (by simp [hhas])]
    congr 1
    refine List.filter_congr fun s _ => ?_
    have hsame : Entries.has (m.add r) s = true ↔ Entries.has m s = true := by
      rw [has_add, or_iff_right_iff_imp]
      rintro rfl
      exact hhas
    rw [Bool.eq_iff_iff.2 hsame]
  · rename_i hmissing
    rw [List.filter_cons_of_pos (by simp [hmissing]), List.eraseDups_cons, List.filter_filter]
    congr 2
    refine List.filter_congr fun s _ => ?_
    rw [Bool.eq_iff_iff]
    simp [← Bool.not_eq_true, has_add, not_or]

/-- Adding first one requirement and then others is adding them all. -/
theorem extendedBy_add (hkeys : (m.map (·.1)).Nodup)
    (hnew : Entries.has ((m.section? r.section_).getD []) r.name = false)
    (rs : List Requirement) : (m.add r).extendedBy rs = m.extendedBy (r :: rs) := by
  have hadditions (s : Text) (hs : s ∈ newSections (m.add r) rs) :
      additions (r :: rs) s = additions rs s := by
    have hnone : Entries.has (m.add r) s = false := by
      simpa using (List.mem_filter.1 (List.mem_eraseDups.1 hs)).2
    have hne : r.section_ ≠ s := by
      rintro rfl
      rw [has_add.2 (.inl rfl)] at hnone
      cases hnone
    rw [additions_cons, if_neg hne]
  have hnews : (newSections (m.add r) rs).map (fun s => (Atom.text s, Value.map (additions rs s)))
      = (newSections (m.add r) rs).map fun s => (.text s, .map (additions (r :: rs) s)) :=
    List.map_congr_left fun s hs => by rw [hadditions s hs]
  rw [extendedBy, extendedBy, newSections_cons, hnews, add_eq hnew]
  cases hhas : Entries.has m r.section_ with
  | true =>
    rw [if_pos rfl, Entries.set_of_has hkeys hhas, List.map_map]
    congr 1
    refine List.map_congr_left fun e he => ?_
    obtain ⟨a, v⟩ := e
    simp only [Function.comp]
    by_cases ha : a = .text r.section_
    · subst ha
      rw [if_pos rfl, extended_cons_self, getD_section?, Entries.get?_of_mem hkeys he]
      rfl
    · rw [if_neg ha, extended_cons_of_ne ha]
  | false =>
    have hsection : m.section? r.section_ = none := by
      rw [Entries.has, Option.isSome_eq_false_iff, Option.isNone_iff_eq_none] at hhas
      rw [section?, hhas]
    have hold : m.map (extended rs) = m.map (extended (r :: rs)) := by
      refine List.map_congr_left fun e he => (extended_cons_of_ne fun hkey => ?_).symm
      have hmem := Entries.has_iff.2 (List.mem_map.2 ⟨e, he, hkey⟩)
      rw [hhas] at hmem
      cases hmem
    have hlast : extended rs (.text r.section_, .map [(.text r.name, .text r.versions)])
        = (.text r.section_, .map (additions (r :: rs) r.section_)) := by
      refine (extended_cons_self r rs (.map [])).symm.trans ?_
      simp [extended, additions_cons_self]
    rw [if_neg Bool.false_ne_true, Entries.set_of_not_has hhas, hsection, List.map_append, hold,
      List.append_assoc, List.map_singleton, List.map_cons]
    exact congrArg (fun e => m.map (extended (r :: rs)) ++ ([e] ++ _)) hlast

theorem get?_extended (m : Manifest) (added : List Requirement) (s : Text) :
    Entries.get? (m.map (extended added)) s
      = (Entries.get? m s).map fun v => (extended added (.text s, v)).2 := by
  induction m with
  | nil => rfl
  | cons e m ih =>
    obtain ⟨a, v⟩ := e
    have hkey : extended added (a, v) = (a, (extended added (a, v)).2) := by
      unfold extended
      split
      · split <;> rfl
      · rfl
    rw [List.map_cons, hkey, Entries.get?_cons, Entries.get?_cons, ih]
    by_cases ha : a = .text s
    · subst ha
      rw [if_pos rfl, if_pos rfl, Option.map_some]
    · rw [if_neg ha, if_neg ha]

/-- A section that got something has it behind its old entries; the others are as they were. -/
theorem section?_extendedBy (m : Manifest) (added : List Requirement) (s : Text) :
    (m.extendedBy added).section? s
      = if (additions added s).isEmpty then m.section? s
        else some ((m.section? s).getD [] ++ additions added s) := by
  have hnew : s ∈ newSections m added ↔
      Entries.has m s = false ∧ (additions added s).isEmpty = false := by
    simp [newSections, additions, and_comm]
  have hget : Entries.get? (m.extendedBy added) s
      = ((Entries.get? m s).map fun v => (extended added (.text s, v)).2).or
        (if s ∈ newSections m added then some (.map (additions added s)) else none) := by
    rw [extendedBy, Entries.get?_append, get?_extended,
      Entries.get?_map_keys _ fun s => .map (additions added s)]
  cases hempty : (additions added s).isEmpty with
  | true =>
    -- nothing was added to the section, which is there or not
    have hsame : Entries.get? (m.extendedBy added) s = Entries.get? m s := by
      rw [hget, if_neg (by simp [hnew, hempty])]
      simp [extended, hempty]
    rw [if_pos rfl, section?, section?, hsame]
  | false =>
    rw [if_neg Bool.false_ne_true, section?_eq_some_iff, hget, getD_section?]
    rcases hthere : Entries.get? m s with _ | v
    · have hhas : Entries.has m s = false := by
        rw [Entries.has, hthere]
        rfl
      simp [hnew, hempty, hhas, entriesOf]
    · simp [extended, hempty]

/-! ## All additions -/

/-- Whether two requirements name the same package. -/
def samePackage (a b : Requirement) : Bool := a.name == b.name

/-- Added is the first requirement of every package that is not declared. -/
theorem addMissing_snd (hsections : ∀ r ∈ rs, r.section_ ∈ Requirement.sections) :
    (m.addMissing rs).2 = (rs.filter fun r => !m.declares r.name).eraseDupsBy samePackage := by
  induction rs generalizing m with
  | nil => rfl
  | cons r rest ih =>
    rw [List.forall_mem_cons] at hsections
    rw [addMissing]
    split
    · rename_i hdeclared
      rw [ih hsections.2, List.filter_cons_of_neg (by simp [hdeclared])]
    · rename_i hmissing
      rw [Bool.not_eq_true] at hmissing
      rw [List.filter_cons_of_pos (by simp [hmissing]), List.eraseDupsBy_cons]
      simp only
      rw [ih hsections.2, List.filter_filter]
      congr 2
      refine List.filter_congr fun r' _ => ?_
      rw [Bool.eq_iff_iff]
      simp [← Bool.not_eq_true, declares_add_iff hsections.1, samePackage, not_or]

/-- The manifest afterwards is the one before with what was added. -/
theorem addMissing_fst (hkeys : (m.map (·.1)).Nodup)
    (hsections : ∀ r ∈ rs, r.section_ ∈ Requirement.sections) :
    (m.addMissing rs).1 = m.extendedBy (m.addMissing rs).2 := by
  induction rs generalizing m with
  | nil => exact (extendedBy_nil m).symm
  | cons r rest ih =>
    rw [List.forall_mem_cons] at hsections
    rw [addMissing]
    split
    · exact ih hkeys hsections.2
    · rename_i hmissing
      have hnew := not_has_of_not_declares (Bool.eq_false_iff.2 hmissing) hsections.1
      simp only
      rw [ih (nodup_keys_add hkeys r) hsections.2, extendedBy_add hkeys hnew]

/-! ## Merging -/

/-- What merging requirements makes of a manifest, and which of them are added. -/
structure Merges (m : Manifest) (required : List Requirement) (m' : Manifest)
    (added : List Requirement) : Prop where
  /-- of the requirements in order, the first one for every package that was not declared -/
  added_eq : ∃ sorted, Requirement.StablySorted required sorted ∧
    added = (sorted.filter fun r => !m.declares r.name).eraseDupsBy samePackage
  declared : ∀ r ∈ required, m'.declares r.name = true
  /-- a section has its old entries first and behind them what was added to it -/
  section_eq : ∀ s, m'.section? s =
    if (additions added s).isEmpty then m.section? s
    else some ((m.section? s).getD [] ++ additions added s)
  /-- sections are extended where they are, all else stays, and new sections come last -/
  manifest_eq : m' = m.extendedBy added
  unchanged : added = [] → m' = m

/-- Requirements that belong to sections which count are merged into a manifest, whatever it holds,
by adding the first of them for every package that is not declared. -/
theorem merge_adds_missing (hkeys : (m.map (·.1)).Nodup)
    (hsections : ∀ r ∈ required, r.section_ ∈ Requirement.sections) :
    Merges m required (m.merge required).1 (m.merge required).2 := by
  have hordered : ∀ r ∈ Requirement.ordered required, r.section_ ∈ Requirement.sections := by
    intro r hr
    exact hsections r (mem_ordered.1 hr)
  have hextended : (m.merge required).1 = m.extendedBy (m.merge required).2 :=
    addMissing_fst hkeys hordered
  refine ⟨⟨Requirement.ordered required, ?_, addMissing_snd hordered⟩, ?_, ?_, hextended, ?_⟩
  · exact Requirement.stablySorted_ordered required
  · intro r hr
    exact declares_addMissing hordered r (mem_ordered.2 hr)
  · intro s
    rw [hextended, section?_extendedBy]
  · intro hnone
    rw [hextended, hnone, extendedBy_nil]

/-- A manifest with a section that counts, one that is no map, and something else in between. -/
def mixedManifest : Manifest :=
  [(.text "devDependencies", .map [(.text "postcss", .text "^8.4.0")]),
    (.text "name", .text "plant"), (.text "dependencies", .list [])]

/-- Requirements out of order, with packages that are wanted more than once. -/
def mixedRequired : List Requirement :=
  [⟨"vite", "^5", Requirement.development⟩, ⟨"mqtt", "^5", Requirement.runtime⟩,
    ⟨"vite", "^6", Requirement.development⟩, ⟨"postcss", "^9", Requirement.runtime⟩,
    ⟨"chart", "^1", Requirement.runtime⟩, ⟨"mqtt", "^4", Requirement.development⟩]

/-- Packages that are wanted more than once are merged into sections of every kind. -/
theorem merge_adds_missing_mixedManifest :
    (mixedManifest.map (·.1)).Nodup ∧
      (∀ r ∈ mixedRequired, r.section_ ∈ Requirement.sections) ∧
      Merges mixedManifest mixedRequired (mixedManifest.merge mixedRequired).1
        (mixedManifest.merge mixedRequired).2 := by
  have hkeys : (mixedManifest.map (·.1)).Nodup := by decide
  have hsections : ∀ r ∈ mixedRequired, r.section_ ∈ Requirement.sections := by decide
  exact ⟨hkeys, hsections, merge_adds_missing hkeys hsections⟩

end Manifest

end DashboardKit
