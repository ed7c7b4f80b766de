import DashboardKit.Component.Loader
import DashboardKit.Proofs.Component.Accepted
import DashboardKit.Proofs.Component.Places
import DashboardKit.Proofs.Json.Writable
import DashboardKit.Proofs.Session.Outcome
import DashboardKit.Proofs.Template.Printing
import DashboardKit.Proofs.Value.Entries

/-!
# Configs that templates can be rendered with

Not every config that is accepted can be used.  A schema, and every list or map under a key of its
own, has to have a JSON form; texts must not hold lone surrogates; and integers must not have more
digits than can be written.  `Usable` says this of the config alone.

Main statement: `accepted_usable_iff`, an accepted config is usable exactly if there are values for
templates and every whole template is rendered with them as a text that can be encoded.
-/

set_option autoImplicit false

namespace DashboardKit

open Template

attribute [local irreducible] Decimal.exceedsLimit

/-! ## Values of extra keys -/

namespace Value

/-- A value that becomes JSON text before it is rendered. -/
def IsStructure : Value → Prop
  | .atom _ => False
  | .set _ => False
  | _ => True

/-- A value has a whole text for templates once structures became JSON text. -/
def Shows : Value → Prop
  | .atom a => a.WithinDigits ∧ a.Whole
  | .set members => ∀ a ∈ members, a.WithinDigits
  | v => v.Writable

end Value

namespace Context

variable {v w : Value} {extra : List (Text × Value)} {entries : Entries} {id : Text}

theorem flattened_of_structure (h : v.IsStructure) :
    flattened v = (Json.write .compact v).map .text := by
  cases v with
  | atom a => exact absurd h not_false
  | set members => exact absurd h not_false
  | _ => rfl

theorem flattened_of_not_structure (h : ¬ v.IsStructure) : flattened v = .ok v := by
  cases v with
  | atom a => rfl
  | set members => rfl
  | _ => exact absurd trivial h

theorem exists_flattened_iff : (∃ w, flattened v = .ok w) ↔ (v.IsStructure → v.Writable) := by
  by_cases h : v.IsStructure
  · rw [flattened_of_structure h, exists_map_eq_ok, Json.exists_write_iff]
    exact ⟨fun hw _ => hw, fun hw => hw h⟩
  · rw [flattened_of_not_structure h]
    exact iff_of_true ⟨v, rfl⟩ fun hv => absurd hv h

/-- What stands for a value prints exactly if the value shows. -/
theorem prints_flattened (h : flattened v = .ok w) : w.Prints ↔ v.Shows := by
  by_cases hv : v.IsStructure
  · have hwritable := exists_flattened_iff.1 ⟨w, h⟩ hv
    rw [flattened_of_structure hv, map_eq_ok] at h
    obtain ⟨t, ht, rfl⟩ := h
    refine iff_of_true (Value.prints_text.2 ((Json.whole_write_iff ht).2 (.inl rfl))) ?_
    cases v with
    | atom a => exact absurd hv not_false
    | set members => exact absurd hv not_false
    | _ => exact hwritable
  · rw [flattened_of_not_structure hv] at h
    obtain rfl := Except.ok.inj h
    cases v with
    | atom a => exact Value.prints_atom
    | set members => exact Value.prints_set
    | _ => exact absurd trivial hv

theorem exists_ofExtra_iff :
    (∃ entries, ofExtra extra = .ok entries) ↔ ∀ e ∈ extra, e.2.IsStructure → e.2.Writable := by
  induction extra with
  | nil => exact iff_of_true ⟨[], rfl⟩ fun _ he => absurd he List.not_mem_nil
  | cons e extra ih =>
    rw [List.forall_mem_cons, ← ih, ← exists_flattened_iff, ofExtra]
    cases flattened e.2 with
    | error f => simp
    | ok w => simp only [exists_map_eq_ok, Except.ok.injEq, exists_eq', true_and]

/-- Under a text key stands what stands for the first value of the key. -/
theorem get?_ofExtra (id : Text) (h : ofExtra extra = .ok entries) :
    (extra.lookup id = none ∧ entries.get? id = none) ∨
      ∃ v w, extra.lookup id = some v ∧ flattened v = .ok w ∧ entries.get? id = some w := by
  induction extra generalizing entries with
  | nil =>
    obtain rfl := Except.ok.inj h
    exact .inl ⟨rfl, rfl⟩
  | cons e extra ih =>
    obtain ⟨key, v⟩ := e
    rw [ofExtra] at h
    cases hflat : flattened v with
    | error f => simp [hflat] at h
    | ok w =>
      simp only [hflat] at h
      obtain ⟨rest, hrest, rfl⟩ := map_eq_ok.1 h
      rw [Entries.get?_cons, List.lookup_cons]
      by_cases hid : id = key
      · subst hid
        exact .inr ⟨v, w, by rw [beq_self_eq_true], hflat, if_pos rfl⟩
      · have hkey : ¬ Atom.text key = .text id := fun heq => hid (Atom.text.inj heq).symm
        rw [if_neg hkey, beq_eq_false_iff_ne.2 hid]
        exact ih hrest

/-- With values put over extra entries, every identifier prints exactly if these values print and
the extra values show that are not put over. -/
theorem prints_overlay_iff {values : List (Text × Value)} (h : ofExtra extra = .ok entries)
    (hnodup : (values.map (·.1)).Nodup) (hident : ∀ p ∈ values, IsIdentifier p.1) :
    (∀ id, IsIdentifier id → (((overlay entries values).get? id).getD .null).Prints) ↔
      (∀ p ∈ values, p.2.Prints) ∧
        ∀ id v, IsIdentifier id → id ∉ values.map (·.1) → extra.lookup id = some v → v.Shows := by
  constructor
  · intro hprints
    constructor
    · intro p hp
      have hvalue := hprints p.1 (hident p hp)
      rwa [get?_overlay_of_mem hnodup hp] at hvalue
    · intro id v hid hfree hlookup
      have hvalue := hprints id hid
      rw [get?_overlay_of_not_mem hfree] at hvalue
      rcases get?_ofExtra id h with ⟨hnone, -⟩ | ⟨v', w, hv', hflat, hget⟩
      · simp [hlookup] at hnone
      · obtain rfl : v = v' := Option.some.inj (hlookup.symm.trans hv')
        rw [hget] at hvalue
        exact (prints_flattened hflat).1 hvalue
  · rintro ⟨hvalues, hextra⟩ id hid
    by_cases hmem : id ∈ values.map (·.1)
    · obtain ⟨p, hp, rfl⟩ := List.mem_map.1 hmem
      rw [get?_overlay_of_mem hnodup hp]
      exact hvalues p hp
    · rw [get?_overlay_of_not_mem hmem]
      rcases get?_ofExtra id h with ⟨-, hnone⟩ | ⟨v, w, hv, hflat, hget⟩
      · rw [hnone]
        exact Value.prints_null
      · rw [hget]
        exact (prints_flattened hflat).2 (hextra id v hid hmem hv)

/-! ## The standard values -/

/-- The keys of the standard values. -/
def standardKeys : List Text :=
  ["componentName", "componentNameLower", "componentApi", "mqttTopic", "label", "unit", "icon",
    "pollingInterval", "setpoint", "maxDeviation", "schema"]

theorem nodup_standardKeys : standardKeys.Nodup := by decide

theorem isIdentifier_standardKeys : ∀ key ∈ standardKeys, IsIdentifier key := by decide

/-- What identifiers stand for in the values of a config. -/
theorem prints_standard_overlay_iff (h : ofExtra extra = .ok entries) (name : Text)
    (config : ComponentConfig) (schema : Text) :
    (∀ id, IsIdentifier id →
      (((overlay entries (standard name config schema)).get? id).getD .null).Prints) ↔
      (∀ p ∈ standard name config schema, p.2.Prints) ∧
        ∀ id v, IsIdentifier id → id ∉ standardKeys → extra.lookup id = some v → v.Shows := by
  have hident : ∀ key ∈ (standard name config schema).map (·.1), IsIdentifier key :=
    isIdentifier_standardKeys
  exact prints_overlay_iff h nodup_standardKeys (List.forall_mem_map.1 hident)

/-- A number that may be left out has not too many digits. -/
def numberWithinDigits (n : Option Validation.Number) : Prop :=
  ∀ k, n = some (.int k) → Decimal.exceedsLimit k = false

theorem prints_numberValue {n : Option Validation.Number} :
    (numberValue n).Prints ↔ numberWithinDigits n := by
  cases n with
  | none => exact iff_of_true Value.prints_null nofun
  | some n =>
    cases n with
    | float x => exact iff_of_true (Value.prints_atom.2 ⟨trivial, trivial⟩) nofun
    | int k =>
      refine Value.prints_atom.trans ?_
      constructor
      · rintro ⟨hk, -⟩ _ ⟨⟩
        exact hk
      · exact fun h => ⟨h k rfl, trivial⟩

end Context

namespace ComponentConfig

variable {c : ComponentConfig} {kind : ComponentKind}

/-- The values of a config can be put into templates. -/
structure Usable (c : ComponentConfig) : Prop where
  /-- the schema has a JSON form -/
  schema : c.schema.Writable
  /-- so has every list and map under a key of its own -/
  structures : ∀ e ∈ c.extra, e.2.IsStructure → e.2.Writable
  topic : c.topic.Whole
  label : c.label.Whole
  unit : c.unit.Whole
  icon : c.icon.Whole
  pollingInterval : Decimal.exceedsLimit c.pollingInterval = false
  setpoint : Context.numberWithinDigits c.setpoint
  maxDeviation : Context.numberWithinDigits c.maxDeviation
  /-- what a placeholder can name besides the standard values shows -/
  extra : ∀ id v, IsIdentifier id → id ∉ Context.standardKeys → c.extra.lookup id = some v → v.Shows

theorem exists_schemaText_iff : (∃ t, c.schemaText = .ok t) ↔ c.schema.Writable := by
  unfold schemaText
  split
  · rename_i hnull
    rw [hnull]
    exact iff_of_true ⟨_, rfl⟩ (.atom trivial)
  · exact Json.exists_write_iff .embedded c.schema

theorem whole_schemaText {t : Text} (h : c.schemaText = .ok t) : t.Whole := by
  unfold schemaText at h
  split at h
  · obtain rfl := Except.ok.inj h
    exact Text.whole_ofString _
  · exact (Json.whole_write_iff h).2 (.inl rfl)

theorem build_eq_ok_iff {context : Entries} :
    Context.build kind (some c) = .ok context ↔
      ∃ extra schema, Context.ofExtra c.extra = .ok extra ∧ c.schemaText = .ok schema ∧
        context = Context.overlay extra
          (Context.standard (Layout.effectiveName kind c.name) c schema) := by
  simp only [Context.build, Context.ofConfig]
  cases Context.ofExtra c.extra with
  | error e => simp
  | ok extra =>
    cases c.schemaText with
    | error e => simp
    | ok schema => simp [eq_comm]

/-- The standard values print exactly if the fields they come from do. -/
theorem prints_standard_iff (hname : isName c.name = true) {schema : Text}
    (hschema : c.schemaText = .ok schema) :
    (∀ p ∈ Context.standard (Layout.effectiveName kind c.name) c schema, p.2.Prints) ↔
      c.topic.Whole ∧ c.label.Whole ∧ c.unit.Whole ∧ c.icon.Whole ∧
        Decimal.exceedsLimit c.pollingInterval = false ∧ Context.numberWithinDigits c.setpoint ∧
        Context.numberWithinDigits c.maxDeviation := by
  have hname' : isName (Layout.effectiveName kind c.name) = true := isName_effectiveName hname
  have hints : (Value.int c.pollingInterval).Prints ↔
      Decimal.exceedsLimit c.pollingInterval = false :=
    Value.prints_atom.trans (and_iff_left trivial)
  simp only [Context.standard, Context.ofName, Context.ofFields, Context.ofSchema,
    List.forall_mem_append, List.forall_mem_cons, List.not_mem_nil, false_implies, implies_true,
    and_true, Value.prints_text, Context.prints_numberValue, hints, whole_of_isName hname',
    whole_lower_of_isName hname', whole_schemaText hschema, true_and]

/-- There are values for templates, and every whole template is rendered with them as a text that
can be encoded, exactly if the config is usable. -/
theorem renders_iff_usable (hname : isName c.name = true) :
    (∃ context, Context.build kind (some c) = .ok context ∧
      ∀ d t, d ≠ [] → t.Whole →
        ∃ text octets, render d context t = .ok text ∧ Utf8.encode text = .ok octets) ↔
      c.Usable := by
  simp only [renders_all_iff, build_eq_ok_iff]
  constructor
  · rintro ⟨_, ⟨extra, schema, hextra, hschema, rfl⟩, hprints⟩
    obtain ⟨hstandard, hshows⟩ := (Context.prints_standard_overlay_iff hextra _ _ _).1 hprints
    obtain ⟨htopic, hlabel, hunit, hicon, hpolling, hsetpoint, hdeviation⟩ :=
      (prints_standard_iff hname hschema).1 hstandard
    exact ⟨exists_schemaText_iff.1 ⟨schema, hschema⟩, Context.exists_ofExtra_iff.1 ⟨extra, hextra⟩,
      htopic, hlabel, hunit, hicon, hpolling, hsetpoint, hdeviation, hshows⟩
  · intro h
    obtain ⟨extra, hextra⟩ := Context.exists_ofExtra_iff.2 h.structures
    obtain ⟨schema, hschema⟩ := exists_schemaText_iff.2 h.schema
    refine ⟨_, ⟨extra, schema, hextra, hschema, rfl⟩, ?_⟩
    refine (Context.prints_standard_overlay_iff hextra _ _ _).2 ⟨?_, h.extra⟩
    exact (prints_standard_iff hname hschema).2 ⟨h.topic, h.label, h.unit, h.icon,
      h.pollingInterval, h.setpoint, h.maxDeviation⟩

end ComponentConfig

/-! ## Config files -/

namespace ConfigFile

variable {path : Path} {echo : Bool} {s s' : Session} {config : ComponentConfig}

/-- A config that was read is what the map in the file describes. -/
theorem exists_entries_of_load (h : (load path echo).outcome s = (.ok config, s')) :
    ∃ raw, ComponentConfig.ofEntries raw = .ok config := by
  suffices hgives : (load path echo).Gives fun c => ∃ raw, ComponentConfig.ofEntries raw = .ok c by
    exact hgives s config s' h
  unfold load
  refine Action.gives_bind fun _ => Action.gives_bind fun path => Action.gives_bind fun isFile => ?_
  refine Action.gives_after_if (Action.gives_after_if (Action.gives_after_if ?_))
  refine Action.gives_bind fun v => ?_
  split
  · rename_i raw
    refine Action.gives_after_if ?_
    cases hraw : ComponentConfig.ofEntries raw with
    | error ps => exact Action.gives_throw _
    | ok c =>
      have hpure : (pure c : Action ComponentConfig).Gives fun c =>
          ∃ raw, ComponentConfig.ofEntries raw = .ok c := Action.gives_pure ⟨raw, hraw⟩
      show Action.Gives _ (if echo = true then _ else _)
      split
      · exact Action.gives_bind fun _ => Action.gives_bind fun _ => hpure
      · exact hpure
  · exact Action.gives_throw _

/-- An accepted config is usable exactly if there are values for templates and every whole template
is rendered with them as a text that can be encoded. -/
theorem accepted_usable_iff {kind : ComponentKind}
    (hload : (load path echo).outcome s = (.ok config, s')) :
    (∃ context, Context.build kind (some config) = .ok context ∧
      ∀ d t, d ≠ [] → t.Whole →
        ∃ text octets, render d context t = .ok text ∧ Utf8.encode text = .ok octets) ↔
      config.Usable := by
  obtain ⟨raw, hraw⟩ := exists_entries_of_load hload
  exact ComponentConfig.renders_iff_usable (ComponentConfig.describes_of_ofEntries hraw).isName

/-- A session with a config file whose schema is a date. -/
def datedSession : Session :=
  .start ⟨[
      (["project"], .dir),
      (["project", "pump.yaml"],
        .file (Utf8.encodeChars "componentName: Pump\nschema: 2024-01-15\n".toList))]⟩
    ["project"] ⟨.root, ["templates"]⟩ []

/-- The path of that file. -/
def datedPath : Path := ⟨.here, ["pump.yaml"]⟩

theorem build_datedSession :
    ((load datedPath true).outcome datedSession).1.toOption.map
      (fun config => (Context.build .state (some config)).toOption.isNone) = some true := by
  decide +kernel

theorem exists_load_datedSession :
    ∃ config s', (load datedPath true).outcome datedSession = (.ok config, s') ∧
      ∀ context, Context.build .state (some config) ≠ .ok context := by
  have hbuild := build_datedSession
  rcases hload : (load datedPath true).outcome datedSession with ⟨f | config, s'⟩
  · simp [hload, Except.toOption] at hbuild
  · refine ⟨config, s', rfl, fun context hcontext => ?_⟩
    simp [hload, hcontext, Except.toOption] at hbuild

/-- A config whose schema is a date is accepted and cannot be used. -/
theorem accepted_not_usable :
    ∃ config s', (load datedPath true).outcome datedSession = (.ok config, s') ∧
      ¬ config.Usable := by
  obtain ⟨config, s', hload, hbuild⟩ := exists_load_datedSession
  refine ⟨config, s', hload, fun husable => ?_⟩
  obtain ⟨context, hcontext, -⟩ : ∃ context, Context.build .state (some config) = .ok context ∧ _ :=
    (accepted_usable_iff hload).2 husable
  exact hbuild context hcontext

/-- Not every accepted config gives values for templates. -/
theorem exists_accepted_without_context :
    ¬ ∀ (path : Path) (echo : Bool) (s s' : Session) (config : ComponentConfig)
      (kind : ComponentKind), (load path echo).outcome s = (.ok config, s') →
      kind.needsConfig = true → ∃ context, Context.build kind (some config) = .ok context := by
  intro hall
  obtain ⟨config, s', hload, hbuild⟩ := exists_load_datedSession
  obtain ⟨context, hcontext⟩ := hall datedPath true datedSession s' config .state hload rfl
  exact hbuild context hcontext

end ConfigFile

end DashboardKit
