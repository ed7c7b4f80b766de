import DashboardKit.Component.Loader
import DashboardKit.Proofs.Component.Accepted
import DashboardKit.Proofs.Value.Entries
import Mathlib.Data.List.Forall2

/-!
# Spelling and order of keys

The key of a field has one or two spellings, and no spelling belongs to two keys.  A map that gives
no field twice is read alike in every order of its entries and under every spelling of its keys: it
is accepted as before, its config has the same fields, and the keys that are no field stay what they
are, up to their order.

Main statement: `respelled_alike`.
-/

set_option autoImplicit false

namespace DashboardKit.ComponentConfig

variable {raw raw' : Entries} {a a' : Atom} {k : Key} {t : Text} {v : Value}

/-! ## Spellings -/

/-- An atom is one of the spellings of a key. -/
def Key.Spells (k : Key) (a : Atom) : Prop := ∃ t ∈ k.spellings, a = .text t

instance (k : Key) (a : Atom) : Decidable (k.Spells a) :=
  inferInstanceAs (Decidable (∃ t ∈ k.spellings, a = .text t))

/-- An atom that spells a key of a field. -/
def SpellsField (a : Atom) : Prop := ∃ k ∈ keys, k.Spells a

instance (a : Atom) : Decidable (SpellsField a) :=
  inferInstanceAs (Decidable (∃ k ∈ keys, k.Spells a))

theorem Key.spells_preferred : k.Spells (.text k.preferred) := ⟨_, List.mem_cons_self, rfl⟩

theorem Key.spells_other (h : t ∈ k.other) : k.Spells (.text t) :=
  ⟨t, List.mem_cons_of_mem _ (Option.mem_toList.2 h), rfl⟩

/-- Keys that share a spelling share all. -/
theorem spellings_eq_of_mem :
    ∀ k ∈ keys, ∀ l ∈ keys, ∀ t ∈ k.spellings, t ∈ l.spellings → k.spellings = l.spellings := by
  decide +kernel

theorem isBrokenKey_of_spellsField (h : SpellsField a) : isBrokenKey a = false := by
  have hall : ∀ k ∈ keys, ∀ t ∈ k.spellings, isBrokenKey (.text t) = false := by decide +kernel
  obtain ⟨k, hk, t, ht, rfl⟩ := h
  exact hall k hk t ht

/-! ## What a map gives for a key -/

/-- The values that a map gives for a key under any of its spellings. -/
def Key.given (k : Key) (raw : Entries) : List Value :=
  (raw.filter fun e => k.Spells e.1).map (·.2)

/-- A map with different keys that gives no field under two spellings. -/
structure GivesOnce (raw : Entries) : Prop where
  distinct : raw.Pairwise fun e f => e.1.sameKey f.1 = false
  once : ∀ k ∈ keys, ∀ t ∈ k.other, ¬ (raw.has k.preferred = true ∧ raw.has t = true)

theorem eq_nil_or_eq_singleton {α : Type} {l : List α} (h : l.length ≤ 1) :
    l = [] ∨ ∃ a, l = [a] := by
  match l, h with
  | [], _ => exact .inl rfl
  | [a], _ => exact .inr ⟨a, rfl⟩

theorem mem_given_iff : v ∈ k.given raw ↔ ∃ a, (a, v) ∈ raw ∧ k.Spells a := by
  simp [Key.given]

theorem GivesOnce.length_given_le_one (h : GivesOnce raw) (hk : k ∈ keys) :
    (k.given raw).length ≤ 1 := by
  rw [Key.given, List.length_map]
  have hdistinct := h.distinct.sublist (List.filter_sublist (p := fun e => k.Spells e.1))
  have hspells : ∀ e ∈ raw.filter fun e => k.Spells e.1, e ∈ raw ∧ k.Spells e.1 := by
    intro e he
    simpa using List.mem_filter.1 he
  generalize raw.filter (fun e => k.Spells e.1) = found at hdistinct hspells
  match found, hdistinct, hspells with
  | [], _, _ => exact Nat.zero_le _
  | [_], _, _ => exact Nat.le_refl _
  -- two entries are spelled alike, or the one is spelled as preferred and the other is not
  | (a, v) :: (b, w) :: _, hdistinct, hspells =>
    exfalso
    have hab : a.sameKey b = false := (List.pairwise_cons.1 hdistinct).1 (b, w) List.mem_cons_self
    obtain ⟨ha, t, ht, rfl⟩ := hspells (a, v) List.mem_cons_self
    obtain ⟨hb, u, hu, rfl⟩ := hspells (b, w) (List.mem_cons_of_mem _ List.mem_cons_self)
    have htu : t ≠ u := fun heq => by simp [(Atom.sameKey_text t u).2 heq] at hab
    rw [Key.spellings, List.mem_cons, Option.mem_toList] at ht hu
    rcases ht with rfl | ht
    · rcases hu with rfl | hu
      · exact htu rfl
      · exact h.once k hk u hu ⟨Entries.has_of_mem ha, Entries.has_of_mem hb⟩
    · rcases hu with rfl | hu
      · exact h.once k hk t ht ⟨Entries.has_of_mem hb, Entries.has_of_mem ha⟩
      · exact htu (Option.mem_unique ht hu)

/-- Where a key is given once, one entry spells it. -/
theorem eq_of_spells (h : (k.given raw).length ≤ 1) {e f : Atom × Value} (he : e ∈ raw)
    (hf : f ∈ raw) (hespells : k.Spells e.1) (hfspells : k.Spells f.1) : e = f := by
  rw [Key.given, List.length_map] at h
  have hmem {e : Atom × Value} (he : e ∈ raw) (hspells : k.Spells e.1) :
      e ∈ raw.filter fun e => k.Spells e.1 := List.mem_filter.2 ⟨he, decide_eq_true hspells⟩
  rcases eq_nil_or_eq_singleton h with hnil | ⟨found, hfound⟩
  · exact absurd (hnil ▸ hmem he hespells) List.not_mem_nil
  · have heq := hmem he hespells
    have hfq := hmem hf hfspells
    rw [hfound, List.mem_singleton] at heq hfq
    exact heq.trans hfq.symm

/-- A field is found under one of the spellings of its key. -/
theorem mem_of_find? (h : k.find? raw = some (t, v)) :
    k.Spells (.text t) ∧ (.text t, v) ∈ raw := by
  unfold Key.find? at h
  split at h
  · rename_i w hget
    cases h
    exact ⟨Key.spells_preferred, Entries.mem_of_get? hget⟩
  · obtain ⟨u, hu, hfound⟩ := Option.bind_eq_some_iff.1 h
    obtain ⟨w, hget, heq⟩ := Option.map_eq_some_iff.1 hfound
    cases heq
    exact ⟨Key.spells_other hu, Entries.mem_of_get? hget⟩

/-- An entry that spells a key lets its field be found. -/
theorem exists_find?_of_mem (h : (a, v) ∈ raw) (hspells : k.Spells a) :
    ∃ t w, k.find? raw = some (t, w) := by
  obtain ⟨t, ht, rfl⟩ := hspells
  obtain ⟨w, hget⟩ := Entries.exists_get?_of_mem h
  unfold Key.find?
  split
  · exact ⟨_, _, rfl⟩
  · rename_i hmissing
    rw [Key.spellings, List.mem_cons, Option.mem_toList] at ht
    rcases ht with rfl | ht
    · rw [hmissing] at hget
      cases hget
    · rw [ht, Option.bind_some, hget]
      exact ⟨_, _, rfl⟩

/-- The value of a field that is given once. -/
theorem find?_eq_head? (h : (k.given raw).length ≤ 1) :
    (k.find? raw).map (·.2) = (k.given raw).head? := by
  rcases eq_nil_or_eq_singleton h with hgiven | ⟨v, hgiven⟩
  · cases hfound : k.find? raw with
    | none => rw [hgiven]; rfl
    | some found =>
      obtain ⟨hspells, hmem⟩ := mem_of_find? hfound
      have hvalue : found.2 ∈ k.given raw := mem_given_iff.2 ⟨_, hmem, hspells⟩
      rw [hgiven] at hvalue
      exact absurd hvalue List.not_mem_nil
  · obtain ⟨a, ha, hspells⟩ := mem_given_iff.1 (hgiven ▸ List.mem_singleton_self v)
    obtain ⟨t, w, hfound⟩ := exists_find?_of_mem ha hspells
    obtain ⟨hspells', hmem⟩ := mem_of_find? hfound
    cases eq_of_spells h ha hmem hspells hspells'
    rw [hfound, hgiven]
    rfl

/-- A value that counts as a name that is given. -/
def Names (v : Value) : Prop := v ≠ .null ∧ v ≠ .text []

theorem givesName_iff_get? : ConfigFile.givesName raw = true ↔
    ∃ t ∈ nameKey.spellings, ∃ v, raw.get? t = some v ∧ Names v := by
  have hspellings : nameKey.spellings = [("componentName" : Text), ("component_name" : Text)] := rfl
  rw [hspellings]
  simp only [List.mem_cons, List.not_mem_nil, or_false, exists_eq_or_imp, exists_eq_left,
    ConfigFile.givesName, Bool.or_eq_true]
  refine or_congr ?_ ?_
  all_goals
    split
    · rename_i hnone
      simp [hnone]
    · rename_i hnull
      simp [hnull, Names]
    · rename_i t htext
      simp [htext, Names]
    · rename_i v hnull htext hv
      simp only [hv, Option.some.injEq, exists_eq_left', true_iff]
      exact ⟨fun heq => hnull (heq ▸ rfl), fun heq => htext [] (heq ▸ rfl)⟩

/-- A name is given exactly if some value under a spelling of its key is one. -/
theorem givesName_iff (h : (nameKey.given raw).length ≤ 1) :
    ConfigFile.givesName raw = true ↔ ∃ v ∈ nameKey.given raw, Names v := by
  rw [givesName_iff_get?]
  constructor
  · rintro ⟨t, ht, v, hget, hv⟩
    exact ⟨v, mem_given_iff.2 ⟨_, Entries.mem_of_get? hget, t, ht, rfl⟩, hv⟩
  · rintro ⟨v, hgiven, hv⟩
    obtain ⟨a, ha, t, ht, rfl⟩ := mem_given_iff.1 hgiven
    obtain ⟨w, hget⟩ := Entries.exists_get?_of_mem ha
    cases eq_of_spells h ha (Entries.mem_of_get? hget) ⟨t, ht, rfl⟩ ⟨t, ht, rfl⟩
    exact ⟨t, ht, v, hget, hv⟩

/-- The entries that are no field are those whose keys spell none. -/
theorem extraEntries_eq (h : ∀ k ∈ keys, (k.given raw).length ≤ 1) :
    extraEntries raw = raw.filter fun e => ¬ SpellsField e.1 := by
  have hused (t : Text) (v : Value) (hmem : (.text t, v) ∈ raw) :
      t ∈ usedKeys raw ↔ SpellsField (.text t) := by
    rw [usedKeys, List.mem_filterMap]
    constructor
    · rintro ⟨k, hk, hfind⟩
      obtain ⟨found, hfound, rfl⟩ := Option.map_eq_some_iff.1 hfind
      exact ⟨k, hk, (mem_of_find? hfound).1⟩
    · rintro ⟨k, hk, hspells⟩
      obtain ⟨u, w, hfound⟩ := exists_find?_of_mem hmem hspells
      obtain ⟨hspells', hmem'⟩ := mem_of_find? hfound
      cases eq_of_spells (h k hk) hmem hmem' hspells hspells'
      exact ⟨k, hk, by rw [hfound]; rfl⟩
  refine List.filter_congr fun (a, v) hmem => ?_
  cases a with
  | text t => simp [← hused t v hmem]
  | _ => simp [SpellsField, Key.Spells]

/-! ## Respelled maps -/

/-- Two atoms are the same, or spell the key of one field. -/
inductive Respells : Atom → Atom → Prop where
  | same (a : Atom) : Respells a a
  | field {k : Key} {a a' : Atom} (hk : k ∈ keys) (h : k.Spells a) (h' : k.Spells a') :
      Respells a a'

/-- Two entries have the same value, and their keys respell each other. -/
def RespellsEntry (e e' : Atom × Value) : Prop := Respells e.1 e'.1 ∧ e.2 = e'.2

/-- A map has the entries of another one, in any order and with keys of fields in any spelling. -/
def Respelled (raw raw' : Entries) : Prop :=
  ∃ reordered, raw.Perm reordered ∧ List.Forall₂ RespellsEntry reordered raw'

theorem Respells.spells_iff (h : Respells a a') (hk : k ∈ keys) : k.Spells a ↔ k.Spells a' := by
  cases h with
  | same => exact Iff.rfl
  | @field l _ _ hl ha ha' =>
    have hmoved {b b' : Atom} (hb : l.Spells b) (hb' : l.Spells b') (hspells : k.Spells b) :
        k.Spells b' := by
      obtain ⟨t, ht, rfl⟩ := hb
      obtain ⟨u, hu, heq⟩ := hspells
      obtain rfl := Atom.text.inj heq
      rw [Key.Spells, spellings_eq_of_mem k hk l hl t hu ht]
      exact hb'
    exact ⟨hmoved ha ha', hmoved ha' ha⟩

theorem Respells.spellsField_iff (h : Respells a a') : SpellsField a ↔ SpellsField a' :=
  exists_congr fun _ => and_congr_right h.spells_iff

theorem Respells.isBrokenKey_eq (h : Respells a a') : isBrokenKey a = isBrokenKey a' := by
  cases h with
  | same => rfl
  | field hk ha ha' =>
    rw [isBrokenKey_of_spellsField ⟨_, hk, ha⟩, isBrokenKey_of_spellsField ⟨_, hk, ha'⟩]

theorem Respells.text_iff (h : Respells a a') : (∃ t, a = .text t) ↔ ∃ t, a' = .text t := by
  cases h with
  | same => exact Iff.rfl
  | field hk ha ha' =>
    obtain ⟨t, -, rfl⟩ := ha
    obtain ⟨u, -, rfl⟩ := ha'
    exact iff_of_true ⟨t, rfl⟩ ⟨u, rfl⟩

/-- What respelling does not change holds of all keys of both maps or of neither. -/
theorem Respelled.forall_iff (h : Respelled raw raw') {P : Atom → Prop}
    (hP : ∀ {a a' : Atom}, Respells a a' → (P a ↔ P a')) :
    (∀ e ∈ raw, P e.1) ↔ ∀ e ∈ raw', P e.1 := by
  obtain ⟨reordered, hperm, hrespelled⟩ := h
  refine (forall_congr' fun e => imp_congr_left hperm.mem_iff).trans ?_
  clear hperm
  induction hrespelled with
  | nil => exact Iff.rfl
  | cons he _ ih => rw [List.forall_mem_cons, List.forall_mem_cons, ih, hP he.1]

/-- The values under a key of a field are the same up to their order. -/
theorem Respelled.given_perm (h : Respelled raw raw') (hk : k ∈ keys) :
    (k.given raw).Perm (k.given raw') := by
  obtain ⟨reordered, hperm, hrespelled⟩ := h
  refine ((hperm.filter _).map _).trans (.of_eq ?_)
  clear hperm
  induction hrespelled with
  | nil => rfl
  | @cons e e' _ _ he _ ih =>
    by_cases hspells : k.Spells e.1
    · have hspells' := (he.1.spells_iff hk).1 hspells
      simpa [Key.given, hspells, hspells', he.2] using ih
    · have hspells' := (he.1.spells_iff hk).not.1 hspells
      simpa [Key.given, hspells, hspells'] using ih

/-- The entries that are no field are the same up to their order. -/
theorem Respelled.others_perm (h : Respelled raw raw') :
    (raw.filter fun e => ¬ SpellsField e.1).Perm (raw'.filter fun e => ¬ SpellsField e.1) := by
  obtain ⟨reordered, hperm, hrespelled⟩ := h
  refine (hperm.filter _).trans (.of_eq ?_)
  clear hperm
  induction hrespelled with
  | nil => rfl
  | @cons e e' _ _ he _ ih =>
    by_cases hspells : SpellsField e.1
    · have hspells' := he.1.spellsField_iff.1 hspells
      simpa [hspells, hspells'] using ih
    · have hspells' := he.1.spellsField_iff.not.1 hspells
      obtain ⟨a, v⟩ := e
      obtain ⟨a', v'⟩ := e'
      obtain ⟨hkey, rfl⟩ := he
      cases hkey with
      | same => simpa [hspells] using ih
      | field hk ha _ => exact absurd ⟨_, hk, ha⟩ hspells

theorem keyProblems_eq_nil_iff : keyProblems raw = [] ↔ ∀ e ∈ raw, ∃ t, e.1 = .text t := by
  rw [keyProblems, List.filterMap_eq_nil_iff]
  refine forall₂_congr fun e _ => ?_
  cases e.1 <;> simp

/-! ## Reading a respelled map -/

/-- Two maps are read alike. -/
structure ReadAlike (raw raw' : Entries) : Prop where
  /-- a name is given in both or in neither -/
  name : ConfigFile.givesName raw = ConfigFile.givesName raw'
  /-- both are accepted or neither is -/
  accepted : (∃ c, ofEntries raw = .ok c) ↔ ∃ c', ofEntries raw' = .ok c'
  /-- no field differs -/
  fields : ∀ c c', ofEntries raw = .ok c → ofEntries raw' = .ok c' →
    c' = { c with extra := c'.extra }
  /-- the keys that are no field are the same, with their values, up to their order -/
  extra : ∀ c c', ofEntries raw = .ok c → ofEntries raw' = .ok c' →
    c.extra.Perm c'.extra

/-- What a map gives once is given alike in every order and spelling. -/
theorem Respelled.given_eq (h : Respelled raw raw') (hk : k ∈ keys)
    (hone : (k.given raw).length ≤ 1) : k.given raw = k.given raw' := by
  have hperm := h.given_perm hk
  rcases eq_nil_or_eq_singleton hone with hnil | ⟨v, hv⟩
  · rw [hnil] at hperm ⊢
    exact hperm.nil_eq
  · rw [hv] at hperm ⊢
    exact hperm.singleton_eq

/-- Keys of fields can be given in any order and in any spelling. -/
theorem respelled_alike (honce : GivesOnce raw) (h : Respelled raw raw') : ReadAlike raw raw' := by
  have hone : ∀ k ∈ keys, (k.given raw).length ≤ 1 := fun k hk => honce.length_given_le_one hk
  have hgiven : ∀ k ∈ keys, k.given raw = k.given raw' := fun k hk => h.given_eq hk (hone k hk)
  have hone' : ∀ k ∈ keys, (k.given raw').length ≤ 1 := fun k hk => hgiven k hk ▸ hone k hk
  have hvalues : SameValues raw raw' := fun k hk => by
    rw [find?_eq_head? (hone k hk), find?_eq_head? (hone' k hk), hgiven k hk]
  have hwhole : (∀ e ∈ raw, isBrokenKey e.1 = false) ↔ ∀ e ∈ raw', isBrokenKey e.1 = false :=
    h.forall_iff (P := fun a => isBrokenKey a = false) fun ha => by rw [ha.isBrokenKey_eq]
  have htext : keyProblems raw = [] ↔ keyProblems raw' = [] := by
    rw [keyProblems_eq_nil_iff, keyProblems_eq_nil_iff]
    exact h.forall_iff Respells.text_iff
  refine ⟨?_, ⟨fun ⟨c, hc⟩ => ?_, fun ⟨c', hc'⟩ => ?_⟩, fun c c' hc hc' => ?_,
    fun c c' hc hc' => ?_⟩
  · have hname : nameKey ∈ keys := List.mem_cons_self
    rw [Bool.eq_iff_iff, givesName_iff (hone _ hname), givesName_iff (hone' _ hname),
      hgiven _ hname]
  · have hd := describes_of_ofEntries hc
    have hd' := hd.of_sameValues hvalues (hwhole.1 hd.keys_whole) (htext.1 hd.keys_text)
    exact ⟨_, ofEntries_eq_ok_iff.2 hd'⟩
  · have hd' := describes_of_ofEntries hc'
    have hd := hd'.of_sameValues hvalues.symm (hwhole.2 hd'.keys_whole) (htext.2 hd'.keys_text)
    exact ⟨_, ofEntries_eq_ok_iff.2 hd⟩
  · exact (describes_of_ofEntries hc).eq_with_extra (describes_of_ofEntries hc') hvalues
  · rw [(describes_of_ofEntries hc).extra, (describes_of_ofEntries hc').extra,
      extraEntries_eq hone, extraEntries_eq hone']
    exact h.others_perm.filterMap _

/-- A map with fields and keys of its own. -/
def pumpEntries : Entries :=
  [(.text "componentName", .text "Pump"), (.text "limits", .list [.int 1, .int 9]),
    (.text "mqttTopic", .text "plant/pump"), (.text "unit", .text "bar"),
    (.text "maxDeviation", .int 3), (.text "note", .null)]

/-- The same map from behind, with the other spellings of its keys. -/
def pumpEntriesRespelled : Entries :=
  [(.text "note", .null), (.text "max_deviation", .int 3), (.text "unit", .text "bar"),
    (.text "mqtt_topic", .text "plant/pump"), (.text "limits", .list [.int 1, .int 9]),
    (.text "component_name", .text "Pump")]

/-- Both maps are accepted. -/
theorem respelled_alike_pumpEntries :
    GivesOnce pumpEntries ∧ Respelled pumpEntries pumpEntriesRespelled ∧
      ReadAlike pumpEntries pumpEntriesRespelled ∧ ∃ c, ofEntries pumpEntriesRespelled = .ok c := by
  have honce : GivesOnce pumpEntries := ⟨by decide +kernel, by decide +kernel⟩
  have hsame (e : Atom × Value) : RespellsEntry e e := ⟨.same _, rfl⟩
  have hrespelled : Respelled pumpEntries pumpEntriesRespelled := by
    refine ⟨_, (List.reverse_perm _).symm, ?_⟩
    refine .cons (hsame _) (.cons ⟨?_, rfl⟩ (.cons (hsame _) (.cons ⟨?_, rfl⟩ (.cons (hsame _)
      (.cons ⟨?_, rfl⟩ .nil)))))
    · exact .field (k := maxDeviationKey) (by simp [keys]) (by decide) (by decide)
    · exact .field (k := topicKey) (by simp [keys]) (by decide) (by decide)
    · exact .field (k := nameKey) (by simp [keys]) (by decide) (by decide)
  exact ⟨honce, hrespelled, respelled_alike honce hrespelled, _, rfl⟩

end DashboardKit.ComponentConfig
