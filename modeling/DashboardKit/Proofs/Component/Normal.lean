import DashboardKit.Proofs.Component.Sound
import DashboardKit.Proofs.Value.Entries

/-!
# Configs written out and read again

A config can be written out as entries, its fields under their preferred keys and the other keys
behind them.  Read again, these are accepted, and every field and every other key is what it was;
only the topic is cleaned, which changes it if it came as octets that spell what is cleaned away.

Main statement: `reads_entries`.
-/

set_option autoImplicit false

namespace DashboardKit.ComponentConfig

variable {raw : Entries} {c : ComponentConfig} {k : Key} {v : Value}

/-! ## Writing out -/

/-- The fields of a config under their preferred keys. -/
def fields (c : ComponentConfig) : List (Text × Value) :=
  (nameKey.preferred, .text c.name) :: (Context.ofFields c ++ [(schemaKey.preferred, c.schema)])

/-- The entries that a config is written out as. -/
def entries (c : ComponentConfig) : Entries := (c.fields ++ c.extra).map fun p => (.text p.1, p.2)

theorem keys_fields : c.fields.map (·.1) = keys.map (·.preferred) := rfl

theorem nodup_preferred : (keys.map (·.preferred)).Nodup := by decide

/-- Every field is found under its preferred key. -/
theorem find?_entries (h : (k.preferred, v) ∈ c.fields) :
    k.find? c.entries = some (k.preferred, v) := by
  obtain ⟨front, behind, hsplit⟩ := List.append_of_mem h
  have hfree : ∀ p ∈ front, k.preferred ≠ p.1 := by
    intro p hp heq
    have hnodup := nodup_preferred
    rw [← keys_fields (c := c), hsplit, List.map_append, List.map_cons] at hnodup
    exact (List.nodup_append.1 hnodup).2.2 _ (List.mem_map_of_mem hp) _ List.mem_cons_self heq.symm
  have hlookup : (c.fields ++ c.extra).lookup k.preferred = some v := by
    refine List.lookup_eq_some_iff.2 ⟨front, behind ++ c.extra, ?_, fun p hp => ?_⟩
    · rw [hsplit, List.append_assoc, List.cons_append]
    · simpa using hfree p hp
  rw [Key.find?, entries, Entries.get?_map_text, hlookup]

/-- The fields are found under their preferred keys and nowhere else. -/
theorem mem_usedKeys_entries {t : Text} :
    t ∈ usedKeys c.entries ↔ t ∈ keys.map (·.preferred) := by
  have hfound : ∀ k ∈ keys, (k.find? c.entries).map (·.1) = some k.preferred := by
    intro k hk
    have hkey : k.preferred ∈ c.fields.map (·.1) := by
      rw [keys_fields]
      exact List.mem_map_of_mem hk
    obtain ⟨p, hp, heq⟩ := List.mem_map.1 hkey
    rw [find?_entries (v := p.2) (by rwa [← heq])]
    rfl
  rw [usedKeys, List.mem_filterMap, List.mem_map]
  constructor
  · rintro ⟨k, hk, hkey⟩
    exact ⟨k, hk, Option.some.inj ((hfound k hk).symm.trans hkey)⟩
  · rintro ⟨k, hk, rfl⟩
    exact ⟨k, hk, hfound k hk⟩

/-! ## The other keys -/

theorem Describes.mem_raw_of_mem_extra (h : Describes raw c) {p : Text × Value} (hp : p ∈ c.extra) :
    (.text p.1, p.2) ∈ raw ∧ p.1 ∉ usedKeys raw := by
  rw [h.extra] at hp
  obtain ⟨⟨a, w⟩, he, hpair⟩ := List.mem_filterMap.1 hp
  obtain ⟨hraw, hfree⟩ := List.mem_filter.1 he
  cases a with
  | text t =>
    obtain rfl := Option.some.inj hpair
    exact ⟨hraw, by simpa using hfree⟩
  | _ => cases hpair

/-- No other key is the preferred one of a field. -/
theorem Describes.not_preferred_of_mem_extra (h : Describes raw c) {p : Text × Value}
    (hp : p ∈ c.extra) : p.1 ∉ keys.map (·.preferred) := by
  intro hpreferred
  obtain ⟨hraw, hfree⟩ := h.mem_raw_of_mem_extra hp
  obtain ⟨k, hk, heq⟩ := List.mem_map.1 hpreferred
  obtain ⟨w, hw⟩ := Entries.exists_get?_of_mem hraw
  refine hfree (List.mem_filterMap.2 ⟨k, hk, ?_⟩)
  rw [Key.find?, heq, hw]
  rfl

/-- The other keys are left over again. -/
theorem Describes.extra_entries (h : Describes raw c) :
    extraEntries c.entries = c.extra.map fun p => (.text p.1, p.2) := by
  have hfield : ∀ p ∈ c.fields, p.1 ∈ keys.map (·.preferred) := fun p hp => by
    rw [← keys_fields (c := c)]
    exact List.mem_map_of_mem hp
  have hother : ∀ p ∈ c.extra, p.1 ∉ keys.map (·.preferred) := fun p hp =>
    h.not_preferred_of_mem_extra hp
  have hwritten : c.entries = (c.fields.map fun p => (.text p.1, p.2)) ++
      c.extra.map fun p => (.text p.1, p.2) := List.map_append
  rw [extraEntries]
  conv => lhs; arg 2; rw [hwritten]
  rw [List.filter_append, List.filter_eq_nil_iff.2, List.filter_eq_self.2, List.nil_append]
  · refine List.forall_mem_map.2 fun p hp => ?_
    simpa [mem_usedKeys_entries] using hother p hp
  · refine List.forall_mem_map.2 fun p hp => ?_
    simpa [mem_usedKeys_entries] using hfield p hp

/-! ## Reading again -/

/-- What a field is read as when it is read again. -/
theorem optional_entries {α : Type} {standard a : α} {read : Value → Except ProblemKind α}
    (h : (k.preferred, v) ∈ c.fields) (hread : read v = .ok a) :
    optional k standard read c.entries = .ok a := by
  rw [optional, find?_entries h]
  exact mapError_eq_ok.2 hread

theorem optionalNumber_entries {n : Option Validation.Number}
    (h : (k.preferred, Context.numberValue n) ∈ c.fields) : optionalNumber k c.entries = .ok n := by
  rw [optionalNumber, find?_entries h]
  rcases n with _ | n | x <;> rfl

theorem requiredName_entries (hname : isName c.name = true) :
    requiredName c.entries = .ok c.name := by
  have hmem : (nameKey.preferred, Value.text c.name) ∈ c.fields := by simp [fields, nameKey]
  have hwhole : ¬ (Text.chars? c.name).isNone = true := by
    rw [Option.isNone_iff_eq_none, ← ne_eq, Option.ne_none_iff_isSome]
    exact Text.isSome_chars?_iff.2 (whole_of_isName hname)
  have hempty : ¬ c.name.isEmpty = true := by
    obtain ⟨first, rest, hspelled, -⟩ := spellsIdentifier_of_isName hname
    rw [hspelled]
    exact Bool.false_ne_true
  have hnonempty : Validation.nonemptyText (.text c.name) = .ok c.name := by
    show (if _ then _ else if _ then _ else _) = _
    rw [if_neg hwhole, if_neg hempty]
  rw [requiredName, find?_entries hmem]
  refine mapError_eq_ok.2 ?_
  rw [readName, hnonempty]
  exact if_pos hname

/-- A config that is read again is what it was but for its topic, which is cleaned. -/
theorem Describes.entries (h : Describes raw c) :
    Describes c.entries { c with topic := Topic.clean c.topic } where
  keys_whole := by
    refine List.forall_mem_map.2 (List.forall_mem_append.2 ⟨fun p hp => ?_, fun p hp => ?_⟩)
    · have hkeys : ∀ t ∈ keys.map (·.preferred), isBrokenKey (.text t) = false := by decide
      refine hkeys p.1 ?_
      rw [← keys_fields (c := c)]
      exact List.mem_map_of_mem hp
    · exact h.keys_whole _ (h.mem_raw_of_mem_extra hp).1
  keys_text := by
    refine List.filterMap_eq_nil_iff.2 (List.forall_mem_map.2 fun p _ => ?_)
    rfl
  name := requiredName_entries h.isName
  topic := optional_entries (v := .text c.topic) (by simp [fields, Context.ofFields, topicKey]) rfl
  label := by
    refine ⟨some c.label, optional_entries (v := .text c.label)
      (by simp [fields, Context.ofFields, labelKey]) ?_, rfl⟩
    show Except.ok (if c.label.isEmpty then none else some c.label) = _
    rw [if_neg (by simpa using h.label_ne_nil)]
  unit := optional_entries (v := .text c.unit) (by simp [fields, Context.ofFields, unitKey]) rfl
  icon := by
    refine optional_entries (v := .text c.icon) (by simp [fields, Context.ofFields, iconKey]) ?_
    have htruthy : (Value.text c.icon).isTruthy = true := by
      simpa [Value.isTruthy] using h.icon_ne_nil
    rw [readIcon, if_pos htruthy]
    rfl
  pollingInterval := by
    refine optional_entries (v := .int c.pollingInterval)
      (by simp [fields, Context.ofFields, pollingIntervalKey]) ?_
    show (if 0 < c.pollingInterval then _ else _) = _
    rw [if_pos h.pollingInterval_pos]
  setpoint := optionalNumber_entries (by simp [fields, Context.ofFields, setpointKey])
  maxDeviation := optionalNumber_entries (by simp [fields, Context.ofFields, maxDeviationKey])
  schema := by
    rw [find?_entries (c := c) (k := schemaKey) (v := c.schema) (by simp [fields, schemaKey])]
    rfl
  extra := by
    rw [h.extra_entries, List.filterMap_map]
    exact List.filterMap_some.symm

/-- An accepted config that is written out is accepted again, and it is the same but for its topic,
which is cleaned; the one that is read then stays as it is.  It is the same altogether unless the
topic was given as octets that spell what is cleaned away. -/
theorem reads_entries (h : ofEntries raw = .ok c) :
    ∃ c', ofEntries c.entries = .ok c' ∧ ofEntries c'.entries = .ok c' ∧
      c' = { c with topic := Topic.clean c.topic } ∧
      (c' = c ↔ ∀ t, GivesTopicAsOctets raw t → Topic.IsClean t) := by
  have hdescribes := describes_of_ofEntries h
  have hagain := hdescribes.entries
  have hclean : Topic.clean (Topic.clean c.topic) = Topic.clean c.topic :=
    Topic.clean_eq_self_iff.2 (Topic.isClean_clean c.topic)
  refine ⟨_, ofEntries_eq_ok_iff.2 hagain, ?_, rfl, ?_⟩
  · have hthird := ofEntries_eq_ok_iff.2 hagain.entries
    rwa [hclean] at hthird
  · have hsame : { c with topic := Topic.clean c.topic } = c ↔ Topic.IsClean c.topic := by
      rw [← Topic.clean_eq_self_iff]
      exact ⟨congrArg ComponentConfig.topic, fun htopic => by rw [htopic]⟩
    rw [hsame]
    constructor
    · intro hclean t ht
      rwa [← hdescribes.topic_eq ht]
    · intro hoctets
      exact hdescribes.topic_clean.elim id fun hgiven => hoctets _ hgiven

/-- A config that was given under both spellings of one key keeps the other as a key that is no
field. -/
theorem reads_entries_of_both_spellings :
    ∃ c, ofEntries [(.text "component_name", .text "Valve"), (.text "componentName", .text "Pump"),
        (.text "mqtt_topic", .text "plant&#x2F;b")] = .ok c ∧
      c.extra = [(("component_name" : Text), .text "Valve")] ∧ ofEntries c.entries = .ok c := by
  obtain ⟨c, hconfig, hextra⟩ : ∃ c, ofEntries [(.text "component_name", .text "Valve"),
        (.text "componentName", .text "Pump"), (.text "mqtt_topic", .text "plant&#x2F;b")] = .ok c ∧
      c.extra = [(("component_name" : Text), .text "Valve")] := ⟨_, rfl, rfl⟩
  obtain ⟨c', hread, -, -, hsame⟩ := reads_entries hconfig
  have htext : topicKey.find? [(.text "component_name", .text "Valve"),
      (.text "componentName", .text "Pump"), (.text "mqtt_topic", .text "plant&#x2F;b")]
        = some (("mqtt_topic" : Text), .text "plant&#x2F;b") := rfl
  have heq : c' = c := hsame.2 fun t ⟨key, octets, cs, hfind, _⟩ => by
    rw [htext] at hfind
    cases hfind
  exact ⟨c, hconfig, hextra, heq ▸ hread⟩

/-- A topic that octets spell is cleaned only when it is read again. -/
theorem exists_entries_read_otherwise :
    ¬ ∀ (raw : Entries) (c : ComponentConfig),
      ofEntries raw = .ok c → ofEntries c.entries = .ok c := by
  intro hall
  have htopic : (ofEntries [(.text "componentName", .text "Pump"),
      (.text "mqttTopic", .bytes (Utf8.encodeChars "a&#x2F;b".toList))]).toOption.map (·.topic)
        = some ("a&#x2F;b" : Text) := by decide +kernel
  obtain ⟨c, hconfig, htopic⟩ := exists_topic_of_toOption htopic
  have hagain := ofEntries_eq_ok_iff.2 (describes_of_ofEntries hconfig).entries
  have hsame : c.topic = Topic.clean c.topic :=
    congrArg ComponentConfig.topic (Except.ok.inj ((hall _ c hconfig).symm.trans hagain))
  rw [htopic] at hsame
  exact absurd (Topic.clean_eq_self_iff.1 hsame.symm) (by decide)

end DashboardKit.ComponentConfig
