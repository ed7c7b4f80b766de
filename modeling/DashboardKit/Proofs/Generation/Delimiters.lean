import DashboardKit.Proofs.Component.Extras
import DashboardKit.Proofs.Generation.Fetching
import DashboardKit.Proofs.Template.Joints

/-!
# No delimiter is left over

What is rendered of a packaged template holds no delimiter, unless the text of a value does.  Values
may well end with the first half of it or begin with the second: the templates have other literal
text on both sides of each placeholder.

Main statement: `packaged_render_free`.
-/

set_option autoImplicit false

namespace DashboardKit

open Template

variable {kind : ComponentKind} {key : ArtifactKey} {config : Option ComponentConfig}
  {context : Entries} {content id : Text}

namespace Template

/-! ## Lines of packaged templates -/

/-- The keys that the packaged templates of a kind may use.  A layout container can do without a
config, and its template without values. -/
def templateKeys (kind : ComponentKind) : List Text :=
  if kind.needsConfig = true then Context.standardKeys else []

/-- A line without the first code point of the delimiter, or else with other literal text around its
placeholders, each of which stands for one of these keys. -/
def SoundLine (keys : List Text) (line : List Char) : Prop :=
  '$' ∉ line ∨
    (cutOf Settings.standardDelimiter (Text.ofChars line)).Sealed (.scalar '$') (.scalar '&') ∧
      ∀ id ∈ (cutOf Settings.standardDelimiter (Text.ofChars line)).ids, id ∈ keys

instance (keys : List Text) (line : List Char) : Decidable (SoundLine keys line) :=
  inferInstanceAs (Decidable (_ ∨ _ ∧ _))

/-- A line that is all literal text has a sealed cut, too. -/
theorem SoundLine.sealed {keys : List Text} {line : List Char} (h : SoundLine keys line) :
    (cutOf Settings.standardDelimiter (Text.ofChars line)).Sealed (.scalar '$') (.scalar '&') ∧
      ∀ id ∈ (cutOf Settings.standardDelimiter (Text.ofChars line)).ids, id ∈ keys := by
  rcases h with habsent | hsealed
  · have hnone : CodePoint.scalar '$' ∉ Text.ofChars line := by
      simpa [Text.ofChars] using habsent
    rw [Settings.standardDelimiter, show ("$&" : Text) = .scalar '$' :: [.scalar '&'] from rfl,
      cutOf_of_not_mem hnone]
    refine ⟨⟨?_, ?_, List.forall_mem_nil _⟩, List.forall_mem_nil _⟩
    · intro hpair
      exact hnone (hpair.subset List.mem_cons_self)
    · intro hlast
      exact hnone (List.mem_of_getLast? hlast)
  · exact hsealed

set_option maxRecDepth 20000 in
/-- Every line of a packaged template is sound. -/
theorem soundLine_packaged (kind : ComponentKind) (key : ArtifactKey) :
    ∀ line ∈ Packaged.lines kind key, SoundLine (templateKeys kind) line.toList := by
  cases kind <;> cases key
  all_goals
    apply Spelled.forall_mem
    · simp only [Packaged.lines, Packaged.chartApi, Packaged.chartComponent,
        Packaged.dashtableComponent, Packaged.deviationApi, Packaged.deviationComponent,
        Packaged.stateApi, Packaged.stateComponent, Packaged.statsApi, Packaged.statsComponent,
        Packaged.toggleApi, Packaged.toggleComponent]
      repeat apply Spelled.cons
      exact .nil
    · decide +kernel

/-! ## Whole packaged templates -/

/-- The packaged template for an artifact. -/
def packaged (kind : ComponentKind) (key : ArtifactKey) : Text :=
  Text.ofChars (Packaged.text kind key)

/-- A packaged template is made of its lines. -/
theorem packaged_eq_join (kind : ComponentKind) (key : ArtifactKey) :
    packaged kind key = Text.join [.scalar '\n'] ((Packaged.lines kind key).map Text.ofString) := by
  unfold packaged Packaged.text Packaged.linesText
  generalize Packaged.lines kind key = lines
  induction lines with
  | nil => rfl
  | cons line lines ih =>
    cases lines with
    | nil => simp [Text.join, Text.ofString]
    | cons next lines =>
      have hbreak : Text.ofChars ['\n'] = [.scalar '\n'] := rfl
      simp only [List.map_cons, List.intersperse_cons_cons, List.flatten_cons,
        Text.ofChars_append, Text.join, Text.ofString, List.append_assoc] at ih ⊢
      rw [ih, hbreak]

/-- The text in the place of an identifier is that of the value under it. -/
theorem textIn_eq_ok_iff {v : Value} (h : context.get? id = some v) {text : Text} :
    textIn context id = .ok text ↔ valueText v = .ok text := by
  rw [textIn, h, Option.getD_some, mapError_eq_ok]

/-- The line break stands neither in the delimiter nor in an identifier. -/
theorem break_literal : CodePoint.scalar '\n' ∉ Settings.standardDelimiter ∧
    inIdentifier (.scalar '\n') = false := by decide

theorem ids_packaged_subset (kind : ComponentKind) (key : ArtifactKey) :
    ∀ id ∈ (cutOf Settings.standardDelimiter (packaged kind key)).ids, id ∈ templateKeys kind := by
  intro id hid
  rw [packaged_eq_join, ids_join standardDelimiter_ne_nil break_literal.1 break_literal.2] at hid
  obtain ⟨t, ht, hid⟩ := List.mem_flatMap.1 hid
  obtain ⟨line, hline, rfl⟩ := List.mem_map.1 ht
  exact (soundLine_packaged kind key line hline).sealed.2 id hid

/-- What is rendered of a packaged template holds no delimiter that no value holds. -/
theorem free_render_packaged
    (hvalues : ∀ id ∈ templateKeys kind, ∀ text, textIn context id = .ok text →
      ¬ Settings.standardDelimiter <:+: text)
    (hcontent : render Settings.standardDelimiter context (packaged kind key) = .ok content) :
    ¬ Settings.standardDelimiter <:+: content := by
  rw [packaged_eq_join] at hcontent
  apply free_render_join standardDelimiter_ne_nil break_literal.1 break_literal.2 _ _ _ hcontent
  · decide
  · decide
  · intro t ht line hline
    obtain ⟨source, hsource, rfl⟩ := List.mem_map.1 ht
    obtain ⟨hsealed, hkeys⟩ := (soundLine_packaged kind key source hsource).sealed
    apply hsealed.free_render standardDelimiter_ne_nil _ hline
    intro id hid text htext
    exact hvalues id (hkeys id hid) text htext

end Template

/-! ## Contexts -/

/-- Every context has values for what the packaged templates of its kind use. -/
theorem Context.exists_get?_templateKeys (h : build kind config = .ok context) :
    ∀ id ∈ templateKeys kind, ∃ v, context.get? id = some v := by
  intro id hid
  cases config with
  | none =>
    -- without a config there is only the layout container, which needs none
    cases kind with
    | dashtable => exact absurd hid List.not_mem_nil
    | _ => cases h
  | some c =>
    obtain ⟨-, schema, -, hschema, -⟩ := ComponentConfig.build_eq_ok_iff.1 h
    unfold templateKeys at hid
    split at hid
    · obtain ⟨p, hp, rfl⟩ : ∃ p ∈ standard (Layout.effectiveName kind c.name) c schema, p.1 = id :=
        List.mem_map.1 hid
      exact ⟨p.2, get?_standard h hschema hp⟩
    · exact absurd hid List.not_mem_nil

/-- A packaged template is rendered with values that hold no delimiter as a text without a
delimiter: every placeholder of it stands for a value that is there, and no delimiter comes up where
a value and literal text meet. -/
theorem packaged_render_free (hcontext : Context.build kind config = .ok context)
    (hfree : ∀ e ∈ context, ∀ text, valueText e.2 = .ok text →
      ¬ Settings.standardDelimiter <:+: text) (key : ArtifactKey) :
    (∃ ids, identifiers Settings.standardDelimiter (packaged kind key) = .ok ids ∧
      ∀ id ∈ ids, ∃ v, context.get? id = some v) ∧
    ((∀ e ∈ context, ∃ text, valueText e.2 = .ok text) →
      ∃ content, render Settings.standardDelimiter context (packaged kind key) = .ok content) ∧
    ∀ content, render Settings.standardDelimiter context (packaged kind key) = .ok content →
      ¬ Settings.standardDelimiter <:+: content := by
  have hknown : ∀ id ∈ templateKeys kind, ∃ v, context.get? id = some v :=
    Context.exists_get?_templateKeys hcontext
  refine ⟨?_, ?_, ?_⟩
  · refine ⟨_, identifiers_eq standardDelimiter_ne_nil _, ?_⟩
    intro id hid
    exact hknown id (ids_packaged_subset kind key id (mem_withoutRepeats.1 hid))
  · intro htexts
    rw [exists_render_iff standardDelimiter_ne_nil]
    intro id hid
    obtain ⟨v, hv⟩ := hknown id (ids_packaged_subset kind key id hid)
    obtain ⟨text, htext⟩ := htexts _ (Entries.mem_of_get? hv)
    exact ⟨text, (textIn_eq_ok_iff hv).2 htext⟩
  · intro content hcontent
    apply free_render_packaged _ hcontent
    intro id hid text htext
    obtain ⟨v, hv⟩ := hknown id hid
    exact hfree _ (Entries.mem_of_get? hv) text ((textIn_eq_ok_iff hv).1 htext)

/-- A map whose label begins with the second half of the delimiter and whose unit is the first. -/
def entriesWithHalves : Entries :=
  [(.text "componentName", .text "Pump"), (.text "label", .text "&Pump$"),
    (.text "unit", .text "$")]

/-- The halves of the delimiter in values do not come together. -/
theorem packaged_render_free_halves :
    ∃ c context, ComponentConfig.ofEntries entriesWithHalves = .ok c ∧
      Context.build .deviation (some c) = .ok context ∧
      (∀ e ∈ context, ∀ text, valueText e.2 = .ok text → ¬ Settings.standardDelimiter <:+: text) ∧
      ∃ content, render Settings.standardDelimiter context (packaged .deviation .component)
          = .ok content ∧ ¬ Settings.standardDelimiter <:+: content := by
  obtain ⟨c, context, hc, hcontext, hvalues⟩ : ∃ c context,
      ComponentConfig.ofEntries entriesWithHalves = .ok c ∧
      Context.build .deviation (some c) = .ok context ∧
      ∀ e ∈ context, (valueText e.2).toOption.map (Text.includes Settings.standardDelimiter)
        = some false := ⟨_, _, rfl, rfl, by decide +kernel⟩
  have htexts : ∀ e ∈ context, ∃ text, valueText e.2 = .ok text ∧
      Text.includes Settings.standardDelimiter text = false := fun e he =>
    exists_eq_ok_of_toOption_map (hvalues e he)
  have hfree : ∀ e ∈ context, ∀ text, valueText e.2 = .ok text →
      ¬ Settings.standardDelimiter <:+: text := by
    intro e he text htext
    obtain ⟨text', htext', hincludes⟩ := htexts e he
    obtain rfl := Except.ok.inj (htext.symm.trans htext')
    rw [← Text.includes_iff, hincludes]
    exact Bool.noConfusion
  obtain ⟨-, hrenders, hclean⟩ := packaged_render_free hcontext hfree .component
  obtain ⟨content, hcontent⟩ := hrenders fun e he => (htexts e he).imp fun _ htext => htext.1
  exact ⟨c, context, hc, hcontext, hfree, content, hcontent, hclean content hcontent⟩

end DashboardKit
