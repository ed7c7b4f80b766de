import DashboardKit.Component.Context

/-!
# Entries under text keys

Looking up a text key in entries after one or several values were put under text keys, and which
keys there are then.
-/

set_option autoImplicit false

namespace DashboardKit

/-- Only a text is the same key as a text, and only if they are equal. -/
theorem Atom.sameKey_text_iff {a : Atom} {t : Text} : a.sameKey (.text t) = true ↔ a = .text t := by
  cases a with
  | text u => rw [sameKey_text, Atom.text.injEq]
  | float x =>
    simp only [sameKey, integer?]
    cases x.toInt? <;> simp
  | _ => simp [sameKey, integer?]

namespace Entries

variable {es : Entries} {key id : Text} {v : Value}

theorem get?_cons {a : Atom} :
    get? ((a, v) :: es) id = if a = .text id then some v else get? es id := by
  unfold get?
  rw [find?]
  by_cases h : a = .text id
  · rw [if_pos (Atom.sameKey_text_iff.2 h), if_pos h]
  · rw [if_neg fun hsame => h (Atom.sameKey_text_iff.1 hsame), if_neg h]

/-- Under a text key stands the first value that was given for it. -/
theorem get?_map_text (values : List (Text × Value)) (id : Text) :
    get? (values.map fun p => (.text p.1, p.2)) id = values.lookup id := by
  induction values with
  | nil => rfl
  | cons p values ih =>
    rw [List.map_cons, get?_cons, List.lookup_cons, ih]
    by_cases hid : id = p.1
    · rw [if_pos (congrArg Atom.text hid.symm), beq_iff_eq.2 hid]
    · rw [if_neg fun heq => hid (Atom.text.inj heq).symm, beq_eq_false_iff_ne.2 hid]

/-- A value that was put under a key is found there, and no other key is changed. -/
theorem get?_set : (es.set key v).get? id = if id = key then some v else es.get? id := by
  have hkey : Atom.text key = .text id ↔ id = key := by rw [Atom.text.injEq, eq_comm]
  unfold set
  induction es with
  | nil =>
    rw [insert, get?_cons]
    simp only [hkey]
  | cons e es ih =>
    obtain ⟨a, w⟩ := e
    rw [insert]
    by_cases ha : a = .text key
    · subst ha
      rw [if_pos (Atom.sameKey_text_iff.2 rfl), get?_cons, get?_cons]
      simp only [hkey]
      split <;> rfl
    · rw [if_neg fun hsame => ha (Atom.sameKey_text_iff.1 hsame), get?_cons, get?_cons, ih]
      by_cases hid : id = key
      · subst hid
        rw [if_neg ha, if_neg ha]
      · rw [if_neg hid, if_neg hid]

/-- A value that is found under a key is one of the entries, under this key. -/
theorem mem_of_get? (h : es.get? id = some v) : (.text id, v) ∈ es := by
  induction es with
  | nil => cases h
  | cons e es ih =>
    obtain ⟨a, w⟩ := e
    rw [get?_cons] at h
    split at h
    · rename_i hkey
      rw [hkey, Option.some.inj h]
      exact List.mem_cons_self
    · exact List.mem_cons_of_mem _ (ih h)

/-- Something is found under a key that is there. -/
theorem exists_get?_of_mem (h : (.text id, v) ∈ es) : ∃ w, es.get? id = some w := by
  induction es with
  | nil => exact absurd h List.not_mem_nil
  | cons e es ih =>
    obtain ⟨a, w⟩ := e
    rw [get?_cons]
    split
    · exact ⟨w, rfl⟩
    · rename_i hkey
      refine ih ((List.mem_cons.1 h).resolve_left fun heq => hkey ?_)
      exact (Prod.mk.inj heq).1.symm

theorem has_of_mem (h : (.text id, v) ∈ es) : es.has id = true := by
  obtain ⟨w, hw⟩ := exists_get?_of_mem h
  exact Option.isSome_iff_exists.2 ⟨w, hw⟩

section

variable {K : Atom → Prop} {V : Value → Prop} {a : Atom}

/-- What holds of the keys and values that are there and of those that are put holds of all. -/
theorem forall_insert (ha : K a) (hv : V v) (hes : ∀ e ∈ es, K e.1 ∧ V e.2) :
    ∀ e ∈ insert a v es, K e.1 ∧ V e.2 := by
  induction es with
  | nil => exact List.forall_mem_singleton.2 ⟨ha, hv⟩
  | cons e es ih =>
    obtain ⟨b, w⟩ := e
    rw [List.forall_mem_cons] at hes
    rw [insert]
    split
    · exact List.forall_mem_cons.2 ⟨⟨hes.1.1, hv⟩, hes.2⟩
    · exact List.forall_mem_cons.2 ⟨hes.1, ih hes.2⟩

theorem forall_ofPairs {pairs : List (Atom × Value)} (h : ∀ p ∈ pairs, K p.1 ∧ V p.2) :
    ∀ e ∈ ofPairs pairs, K e.1 ∧ V e.2 := by
  have hfold (pairs : List (Atom × Value)) (hpairs : ∀ p ∈ pairs, K p.1 ∧ V p.2) (es : Entries)
      (hes : ∀ e ∈ es, K e.1 ∧ V e.2) :
      ∀ e ∈ pairs.foldl (fun es p => insert p.1 p.2 es) es, K e.1 ∧ V e.2 := by
    induction pairs generalizing es with
    | nil => exact hes
    | cons p pairs ih =>
      rw [List.forall_mem_cons] at hpairs
      exact ih hpairs.2 _ (forall_insert hpairs.1.1 hpairs.1.2 hes)
  exact hfold pairs h [] fun _ he => absurd he List.not_mem_nil

end

/-! ### Keys -/

/-- A text key that is there stays where it is, and a new one comes last. -/
theorem keys_insert_text (es : Entries) (t : Text) (v : Value) :
    (insert (.text t) v es).map (·.1)
      = if .text t ∈ es.map (·.1) then es.map (·.1) else es.map (·.1) ++ [.text t] := by
  induction es with
  | nil => rfl
  | cons e es ih =>
    obtain ⟨a, w⟩ := e
    rw [insert]
    by_cases ha : a = .text t
    · rw [if_pos (Atom.sameKey_text_iff.2 ha), if_pos (by simp [ha])]
      rfl
    · rw [if_neg fun hsame => ha (Atom.sameKey_text_iff.1 hsame), List.map_cons, ih]
      have hmem : .text t ∈ ((a, w) :: es).map (·.1) ↔ .text t ∈ es.map (·.1) := by
        rw [List.map_cons, List.mem_cons, or_iff_right (Ne.symm ha)]
      simp only [hmem]
      split <;> rfl

theorem nodup_keys_insert_text (h : (es.map (·.1)).Nodup) (t : Text) (v : Value) :
    ((insert (.text t) v es).map (·.1)).Nodup := by
  rw [keys_insert_text]
  split
  · exact h
  · rename_i hnew
    refine List.nodup_append.2 ⟨h, List.nodup_cons.2 ⟨List.not_mem_nil, List.nodup_nil⟩, ?_⟩
    rintro a ha b hb rfl
    rw [List.mem_singleton] at hb
    exact hnew (hb ▸ ha)

/-- Different text keys are put one behind the other. -/
theorem insert_text_of_not_mem {t : Text} (h : .text t ∉ es.map (·.1)) (v : Value) :
    insert (.text t) v es = es ++ [(.text t, v)] := by
  induction es with
  | nil => rfl
  | cons e es ih =>
    obtain ⟨a, w⟩ := e
    rw [List.map_cons, List.mem_cons, not_or] at h
    rw [insert, if_neg fun hsame => h.1 (Atom.sameKey_text_iff.1 hsame).symm, ih h.2]
    rfl

/-- Pairs with text keys give entries whose keys are all different. -/
theorem nodup_keys_ofPairs {pairs : List (Atom × Value)} (h : ∀ p ∈ pairs, ∃ t, p.1 = .text t) :
    ((ofPairs pairs).map (·.1)).Nodup := by
  have hfold (pairs : List (Atom × Value)) (hpairs : ∀ p ∈ pairs, ∃ t, p.1 = .text t)
      (es : Entries) (hes : (es.map (·.1)).Nodup) :
      ((pairs.foldl (fun es p => insert p.1 p.2 es) es).map (·.1)).Nodup := by
    induction pairs generalizing es with
    | nil => exact hes
    | cons p pairs ih =>
      obtain ⟨a, w⟩ := p
      rw [List.forall_mem_cons] at hpairs
      obtain ⟨t, rfl⟩ := hpairs.1
      exact ih hpairs.2 _ (nodup_keys_insert_text hes t w)
  exact hfold pairs h [] List.nodup_nil

/-- Pairs whose text keys are all different are entries as they are. -/
theorem ofPairs_of_nodup {pairs : List (Atom × Value)} (h : ∀ p ∈ pairs, ∃ t, p.1 = .text t)
    (hnodup : (pairs.map (·.1)).Nodup) : ofPairs pairs = pairs := by
  have hfold (pairs : List (Atom × Value)) (hpairs : ∀ p ∈ pairs, ∃ t, p.1 = .text t)
      (es : Entries) (hes : ((es ++ pairs).map (·.1)).Nodup) :
      pairs.foldl (fun es p => insert p.1 p.2 es) es = es ++ pairs := by
    induction pairs generalizing es with
    | nil => exact (List.append_nil es).symm
    | cons p pairs ih =>
      obtain ⟨a, w⟩ := p
      rw [List.forall_mem_cons] at hpairs
      obtain ⟨t, rfl⟩ := hpairs.1
      have hnew : .text t ∉ es.map (·.1) := by
        rw [List.map_append, List.map_cons] at hes
        intro hmem
        exact (List.nodup_append.1 hes).2.2 _ hmem _ List.mem_cons_self rfl
      rw [List.foldl_cons, insert_text_of_not_mem hnew, ih hpairs.2 _ (by simpa using hes),
        List.append_assoc]
      rfl
  exact hfold pairs h [] hnodup

end Entries

/-! ## Values put over entries -/

namespace Context

/-- A key under which nothing is put keeps its value. -/
theorem get?_overlay_of_not_mem {es : Entries} {values : List (Text × Value)} {id : Text}
    (h : id ∉ values.map (·.1)) : (overlay es values).get? id = es.get? id := by
  induction values generalizing es with
  | nil => rfl
  | cons p values ih =>
    rw [List.map_cons, List.mem_cons, not_or] at h
    rw [overlay, List.foldl_cons]
    exact (ih h.2).trans (by rw [Entries.get?_set, if_neg h.1])

/-- Every value that is put under a key of its own is found there. -/
theorem get?_overlay_of_mem {es : Entries} {values : List (Text × Value)}
    (hnodup : (values.map (·.1)).Nodup) {p : Text × Value} (hp : p ∈ values) :
    (overlay es values).get? p.1 = some p.2 := by
  induction values generalizing es with
  | nil => exact absurd hp List.not_mem_nil
  | cons q values ih =>
    rw [List.map_cons, List.nodup_cons] at hnodup
    rcases List.mem_cons.1 hp with rfl | hp
    · have hrest : (overlay (es.set p.1 p.2) values).get? p.1 = (es.set p.1 p.2).get? p.1 :=
        get?_overlay_of_not_mem hnodup.1
      exact hrest.trans (by rw [Entries.get?_set, if_pos rfl])
    · exact ih hnodup.2 hp

end Context

end DashboardKit
