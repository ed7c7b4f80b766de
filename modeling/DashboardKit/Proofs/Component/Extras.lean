import DashboardKit.Proofs.Component.Usable
import DashboardKit.Proofs.Template.Dependence

/-!
# Keys that are no field

Whatever stands under the other keys of two maps, if all keys of fields stand for the same in both,
then so do the standard values that templates are rendered with.  A key of a config can be called
like a standard value that is no field, such as the name of the route; it is written over.

Main statement: `standard_values_agree`.
-/

set_option autoImplicit false

namespace DashboardKit

open Template

variable {raw raw' : Entries} {c c' : ComponentConfig} {kind : ComponentKind}
  {context context' : Entries}

namespace ComponentConfig

/-! ## Fields -/

/-- The keys of all fields in all their spellings. -/
def spellings : List Text := keys.flatMap Key.spellings

/-- All keys of fields are there with the same values, or are missing, in two maps. -/
def SameFields (raw raw' : Entries) : Prop := ∀ key ∈ spellings, raw.get? key = raw'.get? key

theorem SameFields.find? (h : SameFields raw raw') {k : Key} (hk : k ∈ keys) :
    k.find? raw = k.find? raw' := by
  have hspelling {t : Text} (ht : t ∈ k.spellings) : raw.get? t = raw'.get? t :=
    h t (List.mem_flatMap.2 ⟨k, hk, ht⟩)
  rw [Key.find?, Key.find?, hspelling List.mem_cons_self]
  cases raw'.get? k.preferred with
  | some v => rfl
  | none =>
    cases hother : k.other with
    | none => rfl
    | some t =>
      rw [Option.bind_some, Option.bind_some,
        hspelling (List.mem_cons_of_mem _ (Option.mem_toList.2 hother))]

/-- Entries in front whose keys spell no field add no field. -/
theorem sameFields_append {front : Entries} (h : ∀ e ∈ front, ∀ key ∈ spellings, e.1 ≠ .text key) :
    SameFields raw (front ++ raw) := by
  induction front with
  | nil => exact fun _ _ => rfl
  | cons e front ih =>
    rw [List.forall_mem_cons] at h
    intro key hkey
    rw [List.cons_append, Entries.get?_cons, if_neg (h.1 key hkey)]
    exact ih h.2 key hkey

/-- Configs of maps with the same fields have the same fields. -/
theorem eq_with_extra (h : SameFields raw raw') (hc : ofEntries raw = .ok c)
    (hc' : ofEntries raw' = .ok c') : c' = { c with extra := c'.extra } := by
  have hvalues : SameValues raw raw' := fun k hk => congrArg (Option.map (·.2)) (h.find? hk)
  exact (describes_of_ofEntries hc).eq_with_extra (describes_of_ofEntries hc') hvalues

end ComponentConfig

namespace Context

/-! ## Standard values -/

/-- The standard values are those of the fields, whatever the other keys are. -/
theorem get?_standard (h : build kind (some c) = .ok context) {schema : Text}
    (hschema : c.schemaText = .ok schema) {p : Text × Value}
    (hp : p ∈ standard (Layout.effectiveName kind c.name) c schema) :
    context.get? p.1 = some p.2 := by
  obtain ⟨extra, schema', -, hschema', rfl⟩ := ComponentConfig.build_eq_ok_iff.1 h
  obtain rfl := Except.ok.inj (hschema.symm.trans hschema')
  have hnodup : ((standard (Layout.effectiveName kind c.name) c schema).map (·.1)).Nodup :=
    nodup_standardKeys
  exact get?_overlay_of_mem hnodup hp

/-- Templates that use no other keys are rendered alike where these have the same values. -/
theorem render_eq_of_keys {keys ids : List Text} {d t : Text}
    (hsame : ∀ key ∈ keys, context.get? key = context'.get? key) (hids : identifiers d t = .ok ids)
    (hkeys : ∀ id ∈ ids, id ∈ keys) : render d context t = render d context' t := by
  by_cases hd : d = []
  · rw [render, render, if_pos hd, if_pos hd]
  · obtain rfl := Except.ok.inj ((identifiers_eq hd t).symm.trans hids)
    exact render_congr fun id hid => textIn_congr (hsame id (hkeys id (mem_withoutRepeats.2 hid)))

/-- Configs whose keys of fields have the same values give the same standard values, and the same
texts of all templates that use no other ones. -/
theorem standard_values_agree (hfields : ComponentConfig.SameFields raw raw')
    (hc : ComponentConfig.ofEntries raw = .ok c) (hc' : ComponentConfig.ofEntries raw' = .ok c')
    (hbuild : build kind (some c) = .ok context) (hbuild' : build kind (some c') = .ok context') :
    (∀ key ∈ standardKeys, ∃ v, context.get? key = some v ∧ context'.get? key = some v) ∧
      ∀ d t ids, identifiers d t = .ok ids → (∀ id ∈ ids, id ∈ standardKeys) →
        render d context t = render d context' t := by
  have hsame : ∀ key ∈ standardKeys,
      ∃ v, context.get? key = some v ∧ context'.get? key = some v := by
    intro key hkey
    have hfieldwise := ComponentConfig.eq_with_extra hfields hc hc'
    obtain ⟨-, schema, -, hschema, -⟩ := ComponentConfig.build_eq_ok_iff.1 hbuild
    have hschema' : c'.schemaText = .ok schema := by
      rw [hfieldwise]
      exact hschema
    obtain ⟨p, hp, rfl⟩ : ∃ p ∈ standard (Layout.effectiveName kind c.name) c schema, p.1 = key :=
      List.mem_map.1 hkey
    have hp' : p ∈ standard (Layout.effectiveName kind c'.name) c' schema := by
      rw [hfieldwise]
      exact hp
    exact ⟨p.2, get?_standard hbuild hschema hp, get?_standard hbuild' hschema' hp'⟩
  refine ⟨hsame, fun d t ids hids hkeys => render_eq_of_keys (fun key hkey => ?_) hids hkeys⟩
  obtain ⟨v, hv, hv'⟩ := hsame key hkey
  exact hv.trans hv'.symm

/-- A key that is called like the name of the route does not reach the route. -/
theorem standard_values_agree_componentApi :
    ∃ c c' context context',
      ComponentConfig.SameFields
        [(.text "componentName", .text "Pump"), (.text "component_name", .text "Valve")]
        [(.text "componentApi", .text "users"), (.text "limits", .list []),
          (.text "componentName", .text "Pump"), (.text "component_name", .text "Valve")] ∧
      ComponentConfig.ofEntries
        [(.text "componentName", .text "Pump"), (.text "component_name", .text "Valve")] = .ok c ∧
      ComponentConfig.ofEntries
        [(.text "componentApi", .text "users"), (.text "limits", .list []),
          (.text "componentName", .text "Pump"), (.text "component_name", .text "Valve")]
        = .ok c' ∧
      build .state (some c) = .ok context ∧ build .state (some c') = .ok context' ∧
      render "$&" context "/$&componentApi$&" = render "$&" context' "/$&componentApi$&" := by
  have hfields : ComponentConfig.SameFields
      [(.text "componentName", .text "Pump"), (.text "component_name", .text "Valve")]
      ([(.text "componentApi", .text "users"), (.text "limits", .list [])] ++
        [(.text "componentName", .text "Pump"), (.text "component_name", .text "Valve")]) :=
    ComponentConfig.sameFields_append (by decide)
  obtain ⟨c, context, hc, hbuild⟩ : ∃ c context, ComponentConfig.ofEntries
      [(.text "componentName", .text "Pump"), (.text "component_name", .text "Valve")] = .ok c ∧
        build .state (some c) = .ok context := ⟨_, _, rfl, rfl⟩
  obtain ⟨c', context', hc', hbuild'⟩ : ∃ c' context', ComponentConfig.ofEntries
      [(.text "componentApi", .text "users"), (.text "limits", .list []),
        (.text "componentName", .text "Pump"), (.text "component_name", .text "Valve")] = .ok c' ∧
        build .state (some c') = .ok context' := ⟨_, _, rfl, rfl⟩
  have hids : identifiers "$&" "/$&componentApi$&" = .ok [("componentApi" : Text)] :=
    (identifiers_eq (by decide) _).trans (congrArg Except.ok (by decide +kernel))
  have hrender := (standard_values_agree hfields hc hc' hbuild hbuild').2 _ _ _ hids (by decide)
  exact ⟨c, c', context, context', hfields, hc, hc', hbuild, hbuild', hrender⟩

end Context

end DashboardKit
