import DashboardKit.Component.Context
import DashboardKit.Proofs.Component.Accepted
import DashboardKit.Proofs.Component.Names
import DashboardKit.Proofs.Except
import DashboardKit.Proofs.Text.Replacing

/-!
# What holds of every accepted config

Whichever way its fields were given and whichever of them were left out, an accepted config is
`Sound`: its name is an identifier, its label and icon are not empty, and its polling interval is
above zero.  Its topic is clean if it was given as text; octets are decoded after texts were
cleaned, and whatever they spell becomes the topic.

Main statement: `sound_iff`.
-/

set_option autoImplicit false

namespace DashboardKit.ComponentConfig

variable {raw : Entries} {c : ComponentConfig} {t : Text} {v : Value}

/-! ## Names -/

/-- A text that is spelled like an identifier: a letter, an underline or a dollar sign first, and
only these and digits behind it, all of them ASCII. -/
def SpellsIdentifier (t : Text) : Prop :=
  ∃ first rest, t = Text.ofChars (first :: rest) ∧
    (first.isAlpha = true ∨ first = '_' ∨ first = '$') ∧
    ∀ d ∈ rest, d.isAlphanum = true ∨ d = '_' ∨ d = '$'

/-- What the characters of a name are. -/
theorem spelling_of_inName {d : Char} (h : d.toNat < 0x80) :
    (beginsName (.scalar d) = true → d.isAlpha = true ∨ d = '_' ∨ d = '$') ∧
      (inName (.scalar d) = true → d.isAlphanum = true ∨ d = '_' ∨ d = '$') := by
  have hall : ∀ n : Fin 0x80,
      (beginsName (.scalar (Char.ofNat n)) = true →
        (Char.ofNat n).isAlpha = true ∨ Char.ofNat n = '_' ∨ Char.ofNat n = '$') ∧
      (inName (.scalar (Char.ofNat n)) = true →
        (Char.ofNat n).isAlphanum = true ∨ Char.ofNat n = '_' ∨ Char.ofNat n = '$') := by decide
  have hd := hall ⟨d.toNat, h⟩
  rwa [Char.ofNat_toNat] at hd

theorem exists_rest_of_all_inName (h : ∀ p ∈ t, inName p = true) :
    ∃ rest, t = Text.ofChars rest ∧ ∀ d ∈ rest, d.isAlphanum = true ∨ d = '_' ∨ d = '$' := by
  induction t with
  | nil => exact ⟨[], rfl, fun _ hd => absurd hd List.not_mem_nil⟩
  | cons p t ih =>
    rw [List.forall_mem_cons] at h
    obtain ⟨d, rfl, hascii⟩ := exists_ascii_of_inName h.1
    obtain ⟨rest, rfl, hrest⟩ := ih h.2
    exact ⟨d :: rest, rfl, List.forall_mem_cons.2 ⟨(spelling_of_inName hascii).2 h.1, hrest⟩⟩

theorem spellsIdentifier_of_isName (h : isName t = true) : SpellsIdentifier t := by
  cases t with
  | nil => simp [isName] at h
  | cons p t =>
    have hall := all_inName_of_isName h
    rw [isName, Bool.and_eq_true] at h
    rw [List.forall_mem_cons] at hall
    obtain ⟨d, rfl, hascii⟩ := exists_ascii_of_inName hall.1
    obtain ⟨rest, rfl, hrest⟩ := exists_rest_of_all_inName hall.2
    exact ⟨d, rest, rfl, (spelling_of_inName hascii).1 h.1, hrest⟩

/-! ## Fields -/

/-- What is read as a text is one, or octets that spell it. -/
theorem text_eq_ok (h : Validation.text v = .ok t) :
    v = .text t ∨ ∃ octets cs, v = .bytes octets ∧ Utf8.decode octets = .ok cs ∧
      t = Text.ofChars cs := by
  unfold Validation.text at h
  split at h
  · exact .inl (congrArg Value.text (Except.ok.inj h))
  · rename_i octets
    cases hdecode : Utf8.decode octets with
    | error e => simp [hdecode] at h
    | ok cs =>
      simp only [hdecode] at h
      exact .inr ⟨octets, cs, rfl, hdecode, (Except.ok.inj h).symm⟩
  · cases h

/-- Octets that are decoded spell something. -/
theorem decode_ne_nil {octets : Utf8.Octets} {cs : List Char} (h : Utf8.decode octets = .ok cs)
    (hoctets : octets ≠ []) : cs ≠ [] := by
  obtain ⟨b, octets, rfl⟩ := List.exists_cons_of_ne_nil hoctets
  rw [Utf8.decode, Utf8.decodeFrom] at h
  split at h
  · cases h
  · obtain ⟨rest, -, rfl⟩ := map_eq_ok.1 h
    exact List.cons_ne_nil _ _

/-- A value that counts as present is not read as the empty text. -/
theorem ne_nil_of_text_eq_ok (htruthy : v.isTruthy = true) (h : Validation.text v = .ok t) :
    t ≠ [] := by
  rcases text_eq_ok h with rfl | ⟨octets, cs, rfl, hdecode, rfl⟩
  · simpa [Value.isTruthy] using htruthy
  · have hoctets : octets ≠ [] := by simpa [Value.isTruthy] using htruthy
    simpa [Text.ofChars] using decode_ne_nil hdecode hoctets

theorem Describes.icon_ne_nil (h : Describes raw c) : c.icon ≠ [] := by
  have hstandard : standardIcon ≠ [] := by decide
  rcases optional_eq_ok h.icon with ⟨-, hicon⟩ | ⟨key, v, -, hread⟩
  · rw [hicon]
    exact hstandard
  · unfold readIcon at hread
    split at hread
    · rename_i htruthy
      exact ne_nil_of_text_eq_ok htruthy hread
    · rw [← Except.ok.inj hread]
      exact hstandard

theorem readLabel_eq_ok {label : Text} (h : readLabel v = .ok (some label)) : label ≠ [] := by
  unfold readLabel at h
  split at h
  · cases h
  · obtain ⟨t, -, hlabel⟩ := map_eq_ok.1 h
    split at hlabel
    · cases hlabel
    · rename_i hempty
      rw [← Option.some.inj hlabel]
      simpa using hempty

theorem Describes.label_ne_nil (h : Describes raw c) : c.label ≠ [] := by
  obtain ⟨label, hread, hlabel⟩ := h.label
  rw [hlabel]
  cases label with
  | none =>
    obtain ⟨first, rest, hname, -⟩ := spellsIdentifier_of_isName h.isName
    rw [Option.getD_none, hname]
    exact List.cons_ne_nil _ _
  | some label =>
    rcases optional_eq_ok hread with ⟨-, hnone⟩ | ⟨key, v, -, hread⟩
    · cases hnone
    · exact readLabel_eq_ok hread

theorem positiveInteger_eq_ok {n : Int} (h : Validation.positiveInteger v = .ok n) : 0 < n := by
  unfold Validation.positiveInteger at h
  split at h
  · cases h
  · split at h
    · rename_i hpositive
      rwa [← Except.ok.inj h]
    · cases h

theorem Describes.pollingInterval_pos (h : Describes raw c) : 0 < c.pollingInterval := by
  rcases optional_eq_ok h.pollingInterval with ⟨-, hstandard⟩ | ⟨key, v, -, hread⟩
  · rw [hstandard]
    decide
  · unfold readPollingInterval at hread
    split at hread
    · rw [← Except.ok.inj hread]
      decide
    · exact positiveInteger_eq_ok hread

/-! ## Topics -/

/-- Octets under the key of the topic spell this text. -/
def GivesTopicAsOctets (raw : Entries) (t : Text) : Prop :=
  ∃ key octets cs, topicKey.find? raw = some (key, .bytes octets) ∧
    Utf8.decode octets = .ok cs ∧ t = Text.ofChars cs

/-- A topic is clean, or it is what octets spell. -/
theorem Describes.topic_clean (h : Describes raw c) :
    Topic.IsClean c.topic ∨ GivesTopicAsOctets raw c.topic := by
  have hempty : Topic.IsClean [] := by decide
  rcases optional_eq_ok h.topic with ⟨-, htopic⟩ | ⟨key, v, hfind, hread⟩
  · rw [htopic]
    exact .inl hempty
  · unfold readTopic at hread
    split at hread
    · rw [← Except.ok.inj hread]
      exact .inl hempty
    · rw [← Except.ok.inj hread]
      exact .inl (Topic.isClean_clean _)
    · rename_i htext
      rcases text_eq_ok hread with rfl | ⟨octets, cs, rfl, hdecode, htopic⟩
      · exact absurd rfl (htext _)
      · exact .inr ⟨key, octets, cs, hfind, hdecode, htopic⟩

/-- The topic of a config is what octets spell if it was given so. -/
theorem Describes.topic_eq (h : Describes raw c) (ht : GivesTopicAsOctets raw t) : c.topic = t := by
  obtain ⟨key, octets, cs, hfind, hdecode, rfl⟩ := ht
  have hread : readTopic (.bytes octets) = .ok (Text.ofChars cs) := by
    show Validation.text (.bytes octets) = _
    rw [Validation.text, hdecode]
  rcases optional_eq_ok h.topic with ⟨hnone, -⟩ | ⟨key', v, hfind', hread'⟩
  · rw [hfind] at hnone
    cases hnone
  · rw [hfind] at hfind'
    cases hfind'
    rw [hread] at hread'
    exact (Except.ok.inj hread').symm

theorem exists_topic_of_toOption (h : (ofEntries raw).toOption.map (·.topic) = some t) :
    ∃ c, ofEntries raw = .ok c ∧ c.topic = t :=
  exists_eq_ok_of_toOption_map h

/-! ## Configs -/

/-- A value is nothing, an integer or a floating-point number. -/
def NoneOrNumber (v : Value) : Prop := v = .null ∨ (∃ n, v = .int n) ∨ ∃ x, v = .float x

theorem noneOrNumber_numberValue (n : Option Validation.Number) :
    NoneOrNumber (Context.numberValue n) := by
  rcases n with _ | n | x
  · exact .inl rfl
  · exact .inr (.inl ⟨n, rfl⟩)
  · exact .inr (.inr ⟨x, rfl⟩)

/-- What a config promises to the templates. -/
structure Sound (c : ComponentConfig) : Prop where
  name : SpellsIdentifier c.name
  topic : Topic.IsClean c.topic
  label : c.label ≠ []
  icon : c.icon ≠ []
  pollingInterval : 0 < c.pollingInterval
  setpoint : NoneOrNumber (Context.numberValue c.setpoint)
  maxDeviation : NoneOrNumber (Context.numberValue c.maxDeviation)

/-- An accepted config is sound exactly if its topic was not given as octets that spell a text to be
cleaned. -/
theorem sound_iff (h : ofEntries raw = .ok c) :
    c.Sound ↔ ∀ t, GivesTopicAsOctets raw t → Topic.IsClean t := by
  have hdescribes := describes_of_ofEntries h
  constructor
  · intro hsound t ht
    rw [← hdescribes.topic_eq ht]
    exact hsound.topic
  · intro hoctets
    refine ⟨spellsIdentifier_of_isName hdescribes.isName, ?_, hdescribes.label_ne_nil,
      hdescribes.icon_ne_nil, hdescribes.pollingInterval_pos, noneOrNumber_numberValue _,
      noneOrNumber_numberValue _⟩
    rcases hdescribes.topic_clean with hclean | hgiven
    · exact hclean
    · exact hoctets _ hgiven

/-- Octets that spell a clean topic leave a config sound, also under the other spellings of its
keys. -/
theorem sound_of_clean_octets :
    ∃ c, ofEntries [(.text "component_name", .text "Pump"),
        (.text "mqtt_topic", .bytes (Utf8.encodeChars "plant/b".toList))] = .ok c ∧ c.Sound := by
  have htopic : (ofEntries [(.text "component_name", .text "Pump"),
      (.text "mqtt_topic", .bytes (Utf8.encodeChars "plant/b".toList))]).toOption.map (·.topic)
        = some ("plant/b" : Text) := by decide +kernel
  obtain ⟨c, hconfig, htopic⟩ := exists_topic_of_toOption htopic
  refine ⟨c, hconfig, (sound_iff hconfig).2 fun t ht => ?_⟩
  rw [← (describes_of_ofEntries hconfig).topic_eq ht, htopic]
  decide

/-- A topic that octets spell is not cleaned. -/
theorem exists_accepted_not_sound :
    ¬ ∀ (raw : Entries) (c : ComponentConfig), ofEntries raw = .ok c → c.Sound := by
  intro hall
  have htopic : (ofEntries [(.text "componentName", .text "Pump"),
      (.text "mqttTopic", .bytes (Utf8.encodeChars "<b>".toList))]).toOption.map (·.topic)
        = some ("<b>" : Text) := by decide +kernel
  obtain ⟨c, hconfig, htopic⟩ := exists_topic_of_toOption htopic
  have hclean := (hall _ c hconfig).topic
  rw [htopic] at hclean
  exact absurd hclean (by decide)

end DashboardKit.ComponentConfig
