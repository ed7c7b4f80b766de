import DashboardKit.Proofs.Generation.Containment

/-!
# Components that share files

Two components have one page component exactly if the stems of their files are the same, and one
data route exactly if their names are the same in lower case and both of them or neither shows
statistics.  The name of a component, its suffix and the segment of statistics can bring about no
other collision, and artifacts with different paths have different places in every file system.

Main statement: `Layout.places_coincide_iff`.
-/

set_option autoImplicit false

namespace DashboardKit

variable {kind kind₁ kind₂ : ComponentKind} {key : ArtifactKey} {name₁ name₂ : Text} {l : Layout}
  {raw₁ raw₂ : Entries} {c₁ c₂ : ComponentConfig}

/-! ## Paths below one directory -/

namespace Path

variable {dir p q : Path} {segments segments' : List Text}

/-- Two paths are one, or lead to different places in every file system. -/
def OneOrApart (p q : Path) : Prop :=
  ∀ (t : FileTree) (cwd l : Location), t.locate cwd p = .ok l → t.locate cwd q = .ok l → p = q

theorem GoesDown.eq_iff (h : dir.GoesDown segments p) (h' : dir.GoesDown segments' q) :
    p = q ↔ segments = segments' := by
  rw [h.eq, h'.eq, Path.mk.injEq, List.append_cancel_left_eq, and_iff_right rfl]

/-- Paths below a directory are one or apart if segments that are spelled alike are the same. -/
theorem GoesDown.oneOrApart (h : dir.GoesDown segments p) (h' : dir.GoesDown segments' q)
    (hspelled : segments.map FileName.spelled = segments'.map FileName.spelled →
      segments = segments') : p.OneOrApart q := by
  intro t cwd l hl hl'
  obtain ⟨base, hbase, rfl⟩ := FileTree.exists_locate_of_goesDown h hl
  obtain ⟨base', hbase', hsame⟩ := FileTree.exists_locate_of_goesDown h' hl'
  obtain rfl := Except.ok.inj (hbase.symm.trans hbase')
  exact (h.eq_iff h').2 (hspelled (List.append_cancel_left hsame))

end Path

namespace Layout

/-! ## Segments of two components -/

/-- The stem of the file of a page component: its name, with a suffix for statistics.  Layout
containers have one and the same. -/
def stem : ComponentKind → Text → Text
  | .stats, name => name ++ ("Statistics" : Text)
  | .dashtable, _ => "Dashtable"
  | _, name => name

theorem fileStem_effectiveName (kind : ComponentKind) (name : Text) :
    fileStem kind (effectiveName kind name) = stem kind name := by
  cases kind <;> rfl

theorem segmentsOf_component_eq_iff :
    l.segmentsOf kind₁ (effectiveName kind₁ name₁) .component
        = l.segmentsOf kind₂ (effectiveName kind₂ name₂) .component ↔
      stem kind₁ name₁ = stem kind₂ name₂ := by
  simp only [segmentsOf, fileStem_effectiveName, List.cons.injEq, and_true,
    List.append_cancel_right_eq]

/-- Routes are the same if the first segments are, and the segment of statistics follows both or
neither.  It is a second segment, so that a component that is called `statistics` is no case apart.
-/
theorem routeSegments_eq_iff :
    routeSegments kind₁ name₁ = routeSegments kind₂ name₂ ↔
      Text.lower name₁ = Text.lower name₂ ∧ (kind₁ = .stats ↔ kind₂ = .stats) := by
  unfold routeSegments
  rw [List.cons.injEq]
  by_cases h₁ : kind₁ = .stats <;> by_cases h₂ : kind₂ = .stats <;> simp [h₁, h₂]

theorem segmentsOf_api_eq_iff (h₁ : kind₁ ≠ .dashtable) (h₂ : kind₂ ≠ .dashtable) :
    l.segmentsOf kind₁ (effectiveName kind₁ name₁) .api
        = l.segmentsOf kind₂ (effectiveName kind₂ name₂) .api ↔
      Text.lower name₁ = Text.lower name₂ ∧ (kind₁ = .stats ↔ kind₂ = .stats) := by
  rw [segmentsOf, segmentsOf, List.append_cancel_right_eq, effectiveName_of_ne h₁,
    effectiveName_of_ne h₂, routeSegments_eq_iff]

/-- The segments of an artifact are spelled as they are, but for the extension. -/
theorem map_spelled_segmentsOf {name : Text} (hname : ComponentConfig.isName name = true)
    (l : Layout) (kind : ComponentKind) (key : ArtifactKey) :
    (l.segmentsOf kind name key).map FileName.spelled
      = { l with extension := FileName.spelled l.extension }.segmentsOf kind name key := by
  have hstem {n : Text} (hn : BeginsArtifactName n) :
      FileName.spelled (n ++ l.extension) = n ++ FileName.spelled l.extension :=
    FileName.spelled_append hn.whole l.extension
  cases key with
  | component =>
    rw [segmentsOf, List.map_singleton, hstem (beginsArtifactName_fileStem hname)]
    rfl
  | api =>
    have hroute : (routeSegments kind name).map FileName.spelled = routeSegments kind name := by
      have hlower := FileName.spelled_of_whole (ComponentConfig.whole_lower_of_isName hname)
      cases kind <;> simp [routeSegments, hlower, FileName.spelled_of_whole (t := "statistics")
        (by decide)]
    rw [segmentsOf, List.map_append, List.map_singleton, hroute, hstem beginsArtifactName_route]
    rfl

/-! ## Places of two components -/

/-- Both components have a place for an artifact.  It is the same place exactly under a condition,
and else the two are apart in every file system. -/
def SharedIff (l : Layout) (key : ArtifactKey) (kind₁ : ComponentKind) (name₁ : Text)
    (kind₂ : ComponentKind) (name₂ : Text) (condition : Prop) : Prop :=
  ∃ p₁ p₂, l.place kind₁ key name₁ = .ok p₁ ∧ l.place kind₂ key name₂ = .ok p₂ ∧
    (p₁ = p₂ ↔ condition) ∧ p₁.OneOrApart p₂

theorem exists_place_goesDown {name : Text} (hext : Path.slash ∉ l.extension)
    (hname : ComponentConfig.isName name = true) (hkey : key ∈ kind.artifacts) :
    ∃ p, l.place kind key name = .ok p ∧
      (l.dirOf key).GoesDown (l.segmentsOf kind (effectiveName kind name) key) p :=
  ⟨_, place_eq_foldl l name hkey, Path.goesDown_foldl_joinText _
    (down_segmentsOf (isName_effectiveName hname) hext kind key)⟩

/-- Places are compared by the segments below the directory of the artifact. -/
theorem sharedIff_of_segmentsOf {condition : Prop} (hext : Path.slash ∉ l.extension)
    (hname₁ : ComponentConfig.isName name₁ = true) (hname₂ : ComponentConfig.isName name₂ = true)
    (hkey₁ : key ∈ kind₁.artifacts) (hkey₂ : key ∈ kind₂.artifacts)
    (hsegments : ∀ l : Layout, l.segmentsOf kind₁ (effectiveName kind₁ name₁) key
      = l.segmentsOf kind₂ (effectiveName kind₂ name₂) key ↔ condition) :
    l.SharedIff key kind₁ name₁ kind₂ name₂ condition := by
  obtain ⟨p₁, hplace₁, hdown₁⟩ := exists_place_goesDown hext hname₁ hkey₁
  obtain ⟨p₂, hplace₂, hdown₂⟩ := exists_place_goesDown hext hname₂ hkey₂
  refine ⟨p₁, p₂, hplace₁, hplace₂, (hdown₁.eq_iff hdown₂).trans (hsegments l),
    hdown₁.oneOrApart hdown₂ fun hspelled => ?_⟩
  rw [map_spelled_segmentsOf (isName_effectiveName hname₁),
    map_spelled_segmentsOf (isName_effectiveName hname₂), hsegments] at hspelled
  exact (hsegments l).2 hspelled

/-- If the extension holds no slash, page components of accepted configs are one exactly if their
stems are, and data routes exactly if the names are the same in lower case and the segment of
statistics comes with both or neither. -/
theorem places_coincide_iff (hext : Path.slash ∉ l.extension)
    (hconfig₁ : ComponentConfig.ofEntries raw₁ = .ok c₁)
    (hconfig₂ : ComponentConfig.ofEntries raw₂ = .ok c₂) (kind₁ kind₂ : ComponentKind) :
    l.SharedIff .component kind₁ c₁.name kind₂ c₂.name
        (stem kind₁ c₁.name = stem kind₂ c₂.name) ∧
      (kind₁ ≠ .dashtable → kind₂ ≠ .dashtable →
        l.SharedIff .api kind₁ c₁.name kind₂ c₂.name
          (Text.lower c₁.name = Text.lower c₂.name ∧ (kind₁ = .stats ↔ kind₂ = .stats))) := by
  have hname₁ := (ComponentConfig.describes_of_ofEntries hconfig₁).isName
  have hname₂ := (ComponentConfig.describes_of_ofEntries hconfig₂).isName
  refine ⟨?_, fun h₁ h₂ => ?_⟩
  · exact sharedIff_of_segmentsOf hext hname₁ hname₂ kind₁.component_mem_artifacts
      kind₂.component_mem_artifacts fun _ => segmentsOf_component_eq_iff
  · exact sharedIff_of_segmentsOf hext hname₁ hname₂ (ComponentKind.api_mem_artifacts h₁)
      (ComponentKind.api_mem_artifacts h₂) fun _ => segmentsOf_api_eq_iff h₁ h₂

/-- The statistics of a boiler and a switch that is called `BoilerStatistics` share their page
component and not their data route. -/
theorem places_coincide_boilerStatistics :
    Path.slash ∉ nestedLayout.extension ∧
      ∃ c₁ c₂, ComponentConfig.ofEntries [(.text "componentName", .text "Boiler")] = .ok c₁ ∧
        ComponentConfig.ofEntries [(.text "componentName", .text "BoilerStatistics")] = .ok c₂ ∧
        (∃ p, nestedLayout.place .stats .component c₁.name = .ok p ∧
          nestedLayout.place .toggle .component c₂.name = .ok p) ∧
        (∃ p₁ p₂, nestedLayout.place .stats .api c₁.name = .ok p₁ ∧
          nestedLayout.place .toggle .api c₂.name = .ok p₂ ∧ p₁ ≠ p₂ ∧ p₁.OneOrApart p₂) := by
  have hext : Path.slash ∉ nestedLayout.extension := by decide
  obtain ⟨c₁, hconfig₁, hname₁⟩ : ∃ c, ComponentConfig.ofEntries
      [(.text "componentName", .text "Boiler")] = .ok c ∧ c.name = "Boiler" := ⟨_, rfl, rfl⟩
  obtain ⟨c₂, hconfig₂, hname₂⟩ : ∃ c, ComponentConfig.ofEntries
      [(.text "componentName", .text "BoilerStatistics")] = .ok c ∧ c.name = "BoilerStatistics" :=
    ⟨_, rfl, rfl⟩
  obtain ⟨hcomponent, hapi⟩ := places_coincide_iff hext hconfig₁ hconfig₂ .stats .toggle
  obtain ⟨p, p', hplace, hplace', hsame, -⟩ := hcomponent
  obtain ⟨p₁, p₂, hplace₁, hplace₂, hroute, hapart⟩ := hapi (by decide) (by decide)
  have hstem : stem .stats c₁.name = stem .toggle c₂.name := by
    rw [hname₁, hname₂]
    decide
  have hlower : Text.lower c₁.name ≠ Text.lower c₂.name := by
    rw [hname₁, hname₂]
    decide
  obtain rfl := hsame.2 hstem
  exact ⟨hext, c₁, c₂, hconfig₁, hconfig₂, ⟨p, hplace, hplace'⟩,
    p₁, p₂, hplace₁, hplace₂, fun h => hlower (hroute.1 h).1, hapart⟩

end Layout

end DashboardKit
