import DashboardKit.Proofs.Component.Extras
import DashboardKit.Proofs.Json.Written
import DashboardKit.Proofs.Session.Saving

/-!
# Structured values inside generated files

A schema, and every list or map under a key of its own, reaches templates as JSON text in ASCII.
Reading that text gives the value back, if its texts are legible where everything outside ASCII is
escaped and no floating-point number is in it.

Main statement: `embedded_values_read_back`.
-/

set_option autoImplicit false

namespace DashboardKit

attribute [local irreducible] Decimal.exceedsLimit

/-! ## Values that are read back -/

namespace Value

/-- A value made of nothing, truth values, integers within the digit limit and texts, of lists, and
of maps under texts that are all different.  The texts may hold lone surrogates, but no two halves
of a pair next to each other. -/
structure Embeddable (v : Value) : Prop where
  document : v.Document (Text.Legible true)
  floatFree : v.FloatFree

variable {v : Value}

/-- Whole texts are legible. -/
theorem Plain.embeddable (h : v.Plain) : v.Embeddable :=
  ⟨h.document.mono fun _ ht => ht.legible true, h.floatFree⟩

end Value

/-- A text of JSON that is all ASCII and read as a value. -/
def Text.SpellsInAscii (v : Value) (t : Text) : Prop :=
  ∃ cs, t = Text.ofChars cs ∧ (∀ c ∈ cs, c.toNat < 0x80) ∧ Json.read cs = .ok v

theorem Text.ofChars_scalars {t : Text} (h : t.Whole) : ofChars (scalars t) = t := by
  induction t with
  | nil => rfl
  | cons p t ih =>
    rw [whole_cons] at h
    cases p with
    | scalar c => exact congrArg (.scalar c :: ·) (ih h.2)
    | surrogate n => cases h.1

/-- What an embeddable value is written as with everything outside ASCII escaped is ASCII, and is
read as the value. -/
theorem Json.spellsInAscii_write {s : Style} (hs : s.asciiOnly = true) {v : Value}
    (hv : v.Embeddable) {t : Text} (h : write s v = .ok t) : t.SpellsInAscii v := by
  have hwhole : t.Whole := (whole_write_iff h).2 (.inl hs)
  have hwritten : ∀ p ∈ t, Written true p := by
    rw [← hs]
    exact written_writeAt h
  refine ⟨Text.scalars t, (Text.ofChars_scalars hwhole).symm, ?_, ?_⟩
  · intro c hc
    obtain ⟨p, hp, hchar⟩ := List.mem_filterMap.1 hc
    cases p with
    | surrogate n => cases hchar
    | scalar d =>
      obtain rfl := Option.some.inj hchar
      rcases hwritten _ hp with heq | ⟨-, hlow⟩ | ⟨hfalse, -⟩
      · obtain rfl := CodePoint.scalar.inj heq
        decide
      · exact Nat.lt_succ_of_lt hlow
      · cases hfalse
  · have hlegible : v.Document (Text.Legible s.asciiOnly) := by
      rw [hs]
      exact hv.document
    have hread := read_write hlegible h (List.forall_mem_nil _)
    rwa [List.append_nil, hv.floatFree.reread_eq] at hread

namespace ComponentConfig

variable {raw : Entries} {c : ComponentConfig} {key : Text}

/-- Under a key that is no field an accepted config has what was given under it. -/
theorem Describes.lookup_extra (h : Describes raw c) (hkey : key ∉ usedKeys raw) :
    c.extra.lookup key = raw.get? key := by
  rw [h.extra, extraEntries]
  generalize usedKeys raw = used at hkey
  clear h
  induction raw with
  | nil => rfl
  | cons e raw ih =>
    obtain ⟨a, w⟩ := e
    rw [Entries.get?_cons]
    cases a with
    | text t =>
      by_cases hused : t ∈ used
      · have hne : Atom.text t ≠ .text key := by
          rintro ⟨⟩
          exact hkey hused
        rw [List.filter_cons_of_neg (by simp [hused]), if_neg hne, ih]
      · rw [List.filter_cons_of_pos (by simp [hused]), List.filterMap_cons]
        simp only
        rw [List.lookup_cons, ih]
        by_cases ht : key = t
        · rw [if_pos (congrArg Atom.text ht.symm), beq_iff_eq.2 ht]
        · rw [if_neg fun heq => ht (Atom.text.inj heq).symm, beq_eq_false_iff_ne.2 ht]
    | _ =>
      rw [if_neg (by rintro ⟨⟩)]
      exact ih

/-- A schema that is there is written with its entries and items on lines of their own. -/
theorem schemaText_eq (h : c.schema ≠ .null) :
    c.schemaText = Json.write .embedded c.schema := by
  unfold schemaText
  split
  · rename_i hnull
    exact absurd hnull h
  · rfl

end ComponentConfig

namespace Context

variable {raw context : Entries} {c : ComponentConfig} {kind : ComponentKind} {key : Text}
  {v : Value}

/-- Under a key stands a text of ASCII that is read as a value. -/
def Embeds (context : Entries) (key : Text) (v : Value) : Prop :=
  ∃ t, context.get? key = some (.text t) ∧ t.SpellsInAscii v

theorem embeds_schema (hbuild : build kind (some c) = .ok context) (hnull : c.schema ≠ .null)
    (hv : c.schema.Embeddable) : Embeds context "schema" c.schema := by
  obtain ⟨-, schema, -, hschema, -⟩ := ComponentConfig.build_eq_ok_iff.1 hbuild
  have hmem : (("schema" : Text), Value.text schema)
      ∈ standard (Layout.effectiveName kind c.name) c schema :=
    List.mem_append_right _ (List.mem_singleton_self _)
  refine ⟨schema, get?_standard hbuild hschema hmem, ?_⟩
  rw [ComponentConfig.schemaText_eq hnull] at hschema
  exact Json.spellsInAscii_write rfl hv hschema

theorem embeds_extra (hbuild : build kind (some c) = .ok context)
    (hlookup : c.extra.lookup key = some v) (hkey : key ∉ standardKeys) (hstructure : v.IsStructure)
    (hv : v.Embeddable) : Embeds context key v := by
  obtain ⟨extra, schema, hextra, -, rfl⟩ := ComponentConfig.build_eq_ok_iff.1 hbuild
  have hkey' : key ∉ (standard (Layout.effectiveName kind c.name) c schema).map (·.1) := hkey
  rcases get?_ofExtra key hextra with ⟨hnone, -⟩ | ⟨v', w, hv', hflat, hget⟩
  · rw [hlookup] at hnone
    cases hnone
  · obtain rfl : v = v' := Option.some.inj (hlookup.symm.trans hv')
    rw [flattened_of_structure hstructure, map_eq_ok] at hflat
    obtain ⟨t, ht, rfl⟩ := hflat
    refine ⟨t, ?_, Json.spellsInAscii_write rfl hv ht⟩
    rw [get?_overlay_of_not_mem hkey', hget]

/-- There are values for templates exactly if the schema, and every list or map under a key of its
own, has a JSON form. -/
theorem exists_build_iff : (∃ context, build kind (some c) = .ok context) ↔
    c.schema.Writable ∧ ∀ e ∈ c.extra, e.2.IsStructure → e.2.Writable := by
  rw [← ComponentConfig.exists_schemaText_iff, ← exists_ofExtra_iff]
  constructor
  · rintro ⟨context, hbuild⟩
    obtain ⟨extra, schema, hextra, hschema, -⟩ := ComponentConfig.build_eq_ok_iff.1 hbuild
    exact ⟨⟨schema, hschema⟩, extra, hextra⟩
  · rintro ⟨⟨schema, hschema⟩, extra, hextra⟩
    exact ⟨_, ComponentConfig.build_eq_ok_iff.2 ⟨extra, schema, hextra, hschema, rfl⟩⟩

/-- What an accepted config has as its schema, and every list and map under a key that is neither a
field nor a standard one, stands in the values for templates as text of ASCII that is read as the
value that was given; and there are values for templates if all of these have a JSON form. -/
theorem embedded_values_read_back (kind : ComponentKind)
    (hc : ComponentConfig.ofEntries raw = .ok c) :
    ((∃ context, build kind (some c) = .ok context) ↔
      c.schema.Writable ∧ ∀ e ∈ c.extra, e.2.IsStructure → e.2.Writable) ∧
    ∀ context, build kind (some c) = .ok context →
      (∀ key v, ComponentConfig.schemaKey.find? raw = some (key, v) → v ≠ .null → v.Embeddable →
        Embeds context "schema" v) ∧
      ∀ key v, raw.get? key = some v → key ∉ ComponentConfig.usedKeys raw → key ∉ standardKeys →
        v.IsStructure → v.Embeddable → Embeds context key v := by
  have hd := ComponentConfig.describes_of_ofEntries hc
  refine ⟨exists_build_iff, fun context hbuild => ⟨?_, ?_⟩⟩
  · intro key v hfind hnull hv
    have hschema : c.schema = v := by
      rw [hd.schema, hfind]
      rfl
    subst hschema
    exact embeds_schema hbuild hnull hv
  · intro key v hget hused hstandard hstructure hv
    have hlookup := (hd.lookup_extra hused).trans hget
    exact embeds_extra hbuild hlookup hstandard hstructure hv

/-! ### A schema and limits -/

/-- Limits with a document in which a string holds what has to be escaped and a character past the
first plane, and with a text of half a surrogate pair. -/
def nestedLimits : Value := .list [Action.nestedDocument, .text [.surrogate 0]]

theorem embeddable_nestedLimits : nestedLimits.Embeddable := by
  have hnested := Action.plain_nestedDocument.embeddable
  have hhalf : Text.Legible true [.surrogate 0] := ⟨.singleton _, nofun⟩
  constructor
  · refine .list ?_
    simp only [List.forall_mem_cons]
    exact ⟨hnested.document, .atom hhalf, List.forall_mem_nil _⟩
  · refine .list ?_
    simp only [List.forall_mem_cons]
    exact ⟨hnested.floatFree, .atom nofun, List.forall_mem_nil _⟩

/-- A config with the document as its schema and with the limits. -/
def nestedEntries : Entries :=
  [(.text "componentName", .text "Pump"), (.text "schema", Action.nestedDocument),
    (.text "limits", nestedLimits)]

/-- Both are read back from the values for templates. -/
theorem embedded_values_read_back_nestedEntries :
    ∃ c context, ComponentConfig.ofEntries nestedEntries = .ok c ∧
      build .state (some c) = .ok context ∧
      Embeds context "schema" Action.nestedDocument ∧ Embeds context "limits" nestedLimits := by
  obtain ⟨c, hc, hschema, hextra⟩ : ∃ c, ComponentConfig.ofEntries nestedEntries = .ok c ∧
      c.schema = Action.nestedDocument ∧ c.extra = [(("limits" : Text), nestedLimits)] :=
    ⟨_, rfl, rfl, rfl⟩
  have hdocument := Action.plain_nestedDocument.embeddable
  obtain ⟨hexists, hreads⟩ := embedded_values_read_back .state hc
  obtain ⟨context, hbuild⟩ := hexists.2 <| by
    rw [hschema, hextra, List.forall_mem_singleton]
    exact ⟨hdocument.document.writable, fun _ => embeddable_nestedLimits.document.writable⟩
  obtain ⟨hschemas, hextras⟩ := hreads context hbuild
  refine ⟨c, context, hc, hbuild, ?_, ?_⟩
  · exact hschemas "schema" _ rfl nofun hdocument
  · exact hextras "limits" _ rfl (by decide) (by decide) trivial embeddable_nestedLimits

end Context

end DashboardKit
