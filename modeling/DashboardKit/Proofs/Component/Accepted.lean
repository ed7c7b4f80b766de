import DashboardKit.Component.Config
import DashboardKit.Proofs.Except

/-!
# Accepted configs

A map of values is accepted as a config if each of its fields is; the fields of the config are what
the fields of the map are read as.

What a field is read as depends on its value alone, not on the key it was found under, so maps with
the same values of all fields describe the same fields.

Main statements: `describes_of_ofEntries` and its converse, `ofEntries_eq_ok_iff`;
`Describes.of_sameValues`.
-/

set_option autoImplicit false

namespace DashboardKit.ComponentConfig

variable {raw raw' : Entries} {c c' : ComponentConfig}

/-- A config is what a map of values describes, field by field. -/
structure Describes (raw : Entries) (c : ComponentConfig) : Prop where
  keys_whole : ∀ e ∈ raw, isBrokenKey e.1 = false
  keys_text : keyProblems raw = []
  name : requiredName raw = .ok c.name
  topic : optional topicKey [] readTopic raw = .ok c.topic
  label : ∃ label, optional labelKey none readLabel raw = .ok label ∧ c.label = label.getD c.name
  unit : optional unitKey [] readUnit raw = .ok c.unit
  icon : optional iconKey standardIcon readIcon raw = .ok c.icon
  pollingInterval :
    optional pollingIntervalKey standardPollingInterval readPollingInterval raw
      = .ok c.pollingInterval
  setpoint : optionalNumber setpointKey raw = .ok c.setpoint
  maxDeviation : optionalNumber maxDeviationKey raw = .ok c.maxDeviation
  schema : c.schema = ((schemaKey.find? raw).map (·.2)).getD .null
  extra : c.extra = (extraEntries raw).filterMap fun e =>
    match e.1 with
    | .text t => some (t, e.2)
    | _ => none

/-- An accepted map describes its config. -/
theorem describes_of_ofEntries (h : ofEntries raw = .ok c) : Describes raw c := by
  unfold ofEntries at h
  split at h
  · simp at h
  · rename_i hkeys
    simp only at h
    split at h
    · rename_i name topic label unit icon polling setpoint deviation hname htopic hlabel hunit hicon
        hpolling hsetpoint hdeviation hproblems
      obtain rfl := Except.ok.inj h
      refine ⟨?_, hproblems, hname, htopic, ⟨label, hlabel, rfl⟩, hunit, hicon, hpolling, hsetpoint,
        hdeviation, rfl, rfl⟩
      intro e he
      refine Bool.eq_false_iff.2 fun hbroken => hkeys ?_
      exact List.any_eq_true.2 ⟨e, he, hbroken⟩
    · simp at h

/-- A map is accepted exactly if it describes a config. -/
theorem ofEntries_eq_ok_iff : ofEntries raw = .ok c ↔ Describes raw c := by
  refine ⟨describes_of_ofEntries, fun h => ?_⟩
  obtain ⟨label, hlabel, hgiven⟩ := h.label
  have hwhole : ¬ (raw.any fun e => isBrokenKey e.1) = true := by
    simpa using h.keys_whole
  rw [ofEntries, if_neg hwhole]
  simp only [h.name, h.topic, hlabel, h.unit, h.icon, h.pollingInterval, h.setpoint, h.maxDeviation,
    h.keys_text, ← hgiven, ← h.schema]
  exact congrArg (fun extra => Except.ok { c with extra }) h.extra.symm

/-- The name of an accepted config is an identifier. -/
theorem Describes.isName (h : Describes raw c) : isName c.name = true := by
  have hname := h.name
  unfold requiredName at hname
  split at hname
  · simp at hname
  · rename_i key v hfind
    rw [mapError_eq_ok] at hname
    unfold readName at hname
    cases htext : Validation.nonemptyText v with
    | error e => simp [htext] at hname
    | ok t =>
      simp only [htext] at hname
      split at hname
      · rename_i hisName
        obtain rfl : t = c.name := by simpa using hname
        exact hisName
      · simp at hname

/-! ## Values of fields -/

/-- The spellings of a key, the preferred one first. -/
def Key.spellings (k : Key) : List Text := k.preferred :: k.other.toList

/-- All fields have the same values in two maps, or are missing in both. -/
def SameValues (raw raw' : Entries) : Prop :=
  ∀ k ∈ keys, (k.find? raw).map (·.2) = (k.find? raw').map (·.2)

theorem SameValues.symm (h : SameValues raw raw') : SameValues raw' raw :=
  fun k hk => (h k hk).symm

/-- What a field that may be left out was read as: the standard value, or what was given. -/
theorem optional_eq_ok {α : Type} {k : Key} {standard a : α} {read : Value → Except ProblemKind α}
    (h : optional k standard read raw = .ok a) :
    (k.find? raw = none ∧ a = standard) ∨
      ∃ key v, k.find? raw = some (key, v) ∧ read v = .ok a := by
  unfold optional at h
  split at h
  · rename_i hnone
    exact .inl ⟨hnone, (Except.ok.inj h).symm⟩
  · rename_i key v hfind
    exact .inr ⟨key, v, hfind, mapError_eq_ok.1 h⟩

theorem optional_eq_ok_iff {α : Type} {k : Key} {standard a : α}
    {read : Value → Except ProblemKind α} :
    optional k standard read raw = .ok a ↔
      ((k.find? raw).map (·.2)).elim (a = standard) fun v => read v = .ok a := by
  unfold optional
  cases k.find? raw with
  | none => exact (Except.ok.injEq _ _).to_iff.trans eq_comm
  | some found => exact mapError_eq_ok

/-- A number that is read under one key is read under every other. -/
theorem readNumber_of_key {key other : Text} {v : Value} {n : Option Validation.Number}
    (h : readNumber key v = .ok n) : readNumber other v = .ok n := by
  unfold readNumber at h ⊢
  split at h
  · exact h
  · split at h
    · exact h
    · cases h

theorem optionalNumber_eq_ok_iff {k : Key} {n : Option Validation.Number} :
    optionalNumber k raw = .ok n ↔
      ((k.find? raw).map (·.2)).elim (n = none) fun v => ∀ key, readNumber key v = .ok n := by
  unfold optionalNumber
  cases k.find? raw with
  | none => exact (Except.ok.injEq _ _).to_iff.trans eq_comm
  | some found => exact ⟨fun h key => readNumber_of_key h, fun h => h found.1⟩

theorem requiredName_eq_ok_iff {name : Text} :
    requiredName raw = .ok name ↔
      ((nameKey.find? raw).map (·.2)).elim False fun v => readName v = .ok name := by
  unfold requiredName
  cases nameKey.find? raw with
  | none => exact iff_of_false nofun not_false
  | some found => exact mapError_eq_ok

/-- A map with the same values of all fields describes the same fields. -/
theorem Describes.of_sameValues (h : Describes raw c) (hsame : SameValues raw raw')
    (hwhole : ∀ e ∈ raw', isBrokenKey e.1 = false) (htext : keyProblems raw' = []) :
    Describes raw' { c with extra := (extraEntries raw').filterMap fun e =>
      match e.1 with
      | .text t => some (t, e.2)
      | _ => none } := by
  have hoptional {α : Type} {k : Key} (hk : k ∈ keys) {standard a : α}
      {read : Value → Except ProblemKind α} (ha : optional k standard read raw = .ok a) :
      optional k standard read raw' = .ok a := by
    rwa [optional_eq_ok_iff, ← hsame k hk, ← optional_eq_ok_iff]
  have hnumber {k : Key} (hk : k ∈ keys) {n : Option Validation.Number}
      (hn : optionalNumber k raw = .ok n) : optionalNumber k raw' = .ok n := by
    rwa [optionalNumber_eq_ok_iff, ← hsame k hk, ← optionalNumber_eq_ok_iff]
  have hname : requiredName raw' = .ok c.name := by
    rw [requiredName_eq_ok_iff, ← hsame nameKey (by simp [keys]), ← requiredName_eq_ok_iff]
    exact h.name
  obtain ⟨label, hlabel, hgiven⟩ := h.label
  exact {
    keys_whole := hwhole
    keys_text := htext
    name := hname
    topic := hoptional (by simp [keys]) h.topic
    label := ⟨label, hoptional (by simp [keys]) hlabel, hgiven⟩
    unit := hoptional (by simp [keys]) h.unit
    icon := hoptional (by simp [keys]) h.icon
    pollingInterval := hoptional (by simp [keys]) h.pollingInterval
    setpoint := hnumber (by simp [keys]) h.setpoint
    maxDeviation := hnumber (by simp [keys]) h.maxDeviation
    schema := by rw [← hsame schemaKey (by simp [keys])]; exact h.schema
    extra := rfl }

/-- Configs of maps with the same values of all fields differ in their other keys only. -/
theorem Describes.eq_with_extra (h : Describes raw c) (h' : Describes raw' c')
    (hsame : SameValues raw raw') : c' = { c with extra := c'.extra } := by
  have hmoved := ofEntries_eq_ok_iff.2 (h.of_sameValues hsame h'.keys_whole h'.keys_text)
  rw [← h'.extra] at hmoved
  exact Except.ok.inj ((ofEntries_eq_ok_iff.2 h').symm.trans hmoved)

end DashboardKit.ComponentConfig
