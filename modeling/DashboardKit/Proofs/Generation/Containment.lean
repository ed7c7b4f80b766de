import DashboardKit.Proofs.Component.Endpoint
import DashboardKit.Proofs.FileTree.Rewriting
import DashboardKit.Proofs.Generation.Reports

/-!
# Artifacts stay in their directories

There is a directory for page components and one for data routes.  Below it an artifact goes down
through segments that are made of the name of its component, each of them one proper segment that
does not lead up, so that nothing a config says can bring an artifact out of its directory.  The
directories themselves may lie anywhere.

Main statement: `generate_contained`.
-/

set_option autoImplicit false

namespace DashboardKit

variable {kind : ComponentKind} {key : ArtifactKey} {name : Text}

/-! ## Segments below a directory -/

/-- A path goes from a directory down through these segments: each of them is one segment, and none
leads up or stays where it is. -/
structure Path.GoesDown (dir : Path) (segments : List Text) (p : Path) : Prop where
  eq : p = ⟨dir.anchor, dir.segments ++ segments⟩
  down : ∀ s ∈ segments, ProperSegment s ∧ s ≠ dotDot

theorem Path.goesDown_foldl_joinText (dir : Path) {segments : List Text}
    (h : ∀ s ∈ segments, ProperSegment s ∧ s ≠ dotDot) :
    dir.GoesDown segments (segments.foldl joinText dir) :=
  ⟨foldl_joinText dir fun s hs => (h s hs).1, h⟩

theorem Path.GoesDown.dotDot_not_mem {dir p : Path} {segments : List Text}
    (h : dir.GoesDown segments p) : dotDot ∉ segments :=
  fun hmem => (h.down _ hmem).2 rfl

/-- The way to a place below a directory leads through the directory. -/
theorem FileTree.exists_locate_of_goesDown {t : FileTree} {cwd l : Location} {dir p : Path}
    {segments : List Text} (h : dir.GoesDown segments p) (hl : t.locate cwd p = .ok l) :
    ∃ base, t.locate cwd dir = .ok base ∧ l = base ++ segments.map FileName.spelled := by
  rw [h.eq] at hl
  obtain ⟨base, hbase, -, hbelow⟩ := locate_down h.dotDot_not_mem hl
  refine ⟨base, locate_eq_ok_iff.2 ⟨?_, hbase⟩, hbelow⟩
  exact octetCount_of_append (locate_eq_ok_iff.1 hl).1

namespace Layout

/-- The directory of an artifact, from the root of the project. -/
def dirOf (l : Layout) : ArtifactKey → Path
  | .component => l.componentDir
  | .api => l.apiDir

/-- The segments that the file of an artifact adds to its directory. -/
def segmentsOf (l : Layout) (kind : ComponentKind) (name : Text) : ArtifactKey → List Text
  | .component => [fileStem kind name ++ l.extension]
  | .api => routeSegments kind name ++ [("route" : Text) ++ l.extension]

theorem effectiveName_effectiveName (kind : ComponentKind) (name : Text) :
    effectiveName kind (effectiveName kind name) = effectiveName kind name := by
  cases kind <;> rfl

theorem place_eq_foldl (l : Layout) (name : Text) (hkey : key ∈ kind.artifacts) :
    l.place kind key name
      = .ok ((l.segmentsOf kind (effectiveName kind name) key).foldl Path.joinText
        (l.dirOf key)) := by
  cases key with
  | component => rfl
  | api =>
    cases kind with
    | dashtable => exact absurd hkey (by decide)
    | _ => rfl

/-- Whatever name a component has, its segments lead down. -/
theorem down_segmentsOf {l : Layout} (hname : ComponentConfig.isName name = true)
    (hext : Path.slash ∉ l.extension) (kind : ComponentKind) (key : ArtifactKey) :
    ∀ s ∈ l.segmentsOf kind name key, Path.ProperSegment s ∧ s ≠ Path.dotDot := by
  intro s hs
  cases key with
  | component =>
    obtain rfl := List.mem_singleton.1 hs
    exact (beginsArtifactName_fileStem hname).toBeginsFileName.proper_append hext
  | api =>
    rcases List.mem_append.1 hs with hroute | hfile
    · rcases List.mem_cons.1 hroute with rfl | hstats
      · exact proper_of_isName (ComponentConfig.isName_lower hname)
      · split at hstats
        · obtain rfl := List.mem_singleton.1 hstats
          exact proper_of_isName (by decide)
        · exact absurd hstats List.not_mem_nil
    · obtain rfl := List.mem_singleton.1 hfile
      exact beginsArtifactName_route.toBeginsFileName.proper_append hext

end Layout

/-! ## Destinations -/

namespace Generator

open Session

variable {st : Settings} {config : Option ComponentConfig}

/-- The directory that an artifact is written to. -/
def directory (st : Settings) : ArtifactKey → Path
  | .component => st.componentPath
  | .api => st.apiPath

/-- Where an artifact of a component is written: the file of its stem, or the file of the route
below the name in lower case and, for statistics, one more directory. -/
def destination (st : Settings) (kind : ComponentKind) (name : Text) : ArtifactKey → Path
  | .component => st.componentPath.joinText (Layout.fileStem kind name ++ st.fileExtension)
  | .api => ((Layout.routeSegments kind name).foldl Path.joinText st.apiPath).joinText
      (("route" : Text) ++ st.fileExtension)

theorem destination_eq_foldl (st : Settings) (kind : ComponentKind) (name : Text)
    (key : ArtifactKey) :
    destination st kind name key
      = (st.layout.segmentsOf kind name key).foldl Path.joinText (directory st key) := by
  cases key with
  | component => rfl
  | api =>
    rw [Layout.segmentsOf, List.foldl_append]
    rfl

theorem goesDown_destination (hname : ComponentConfig.isName name = true)
    (hext : Path.slash ∉ st.fileExtension) (kind : ComponentKind) (key : ArtifactKey) :
    (directory st key).GoesDown (st.layout.segmentsOf kind name key)
      (destination st kind name key) := by
  rw [destination_eq_foldl]
  exact Path.goesDown_foldl_joinText _ (Layout.down_segmentsOf hname hext kind key)

/-- The place of an artifact in the project is its destination. -/
theorem joinParts_place (hname : ComponentConfig.isName name = true)
    (hext : Path.slash ∉ st.fileExtension) {place : Path}
    (h : st.layout.place kind key name = .ok place) (hkey : key ∈ kind.artifacts) :
    st.projectRoot.joinParts place.parts
      = destination st kind (Layout.effectiveName kind name) key := by
  have hname' : ComponentConfig.isName (Layout.effectiveName kind name) = true :=
    isName_effectiveName hname
  have hdown := Layout.down_segmentsOf (l := st.layout) hname' hext kind key
  have hdir : ∀ s ∈ (st.layout.dirOf key).segments, Path.ProperSegment s := by
    intro s hs
    cases key <;> exact Path.ofText_segments_proper hs
  rw [Layout.place_eq_foldl st.layout name hkey] at h
  obtain rfl := Except.ok.inj h
  rw [Path.joinParts_foldl_joinText st.projectRoot hdir fun s hs => (hdown s hs).1,
    destination_eq_foldl]
  cases key <;> rfl

/-- The plan of a component gives each of its artifacts its destination. -/
theorem plan_eq (g : Generator) (hname : ComponentConfig.isName name = true)
    (hext : Path.slash ∉ g.settings.fileExtension) (kind : ComponentKind) :
    g.plan kind name = .ok (kind.artifacts.map fun key =>
      (Text.ofString key.name,
        destination g.settings kind (Layout.effectiveName kind name) key)) := by
  refine mapM_eq_ok_map fun key hkey => ?_
  obtain ⟨place, hplace⟩ := Layout.exists_place g.settings.layout name hkey
  rw [hplace, ← joinParts_place hname hext hplace hkey]
  rfl

/-! ## Runs -/

/-- Whatever comes of a run, files are written where artifacts go and where the manifest is. -/
theorem generate_growsAt {g g' : Generator} {s s' : Session} {result : Except Failure Report}
    (h : (generate kind config).outcome g s = (result, g', s')) :
    GrowsAt (fun q => Destined g.settings kind config q ∨ q = g.settings.manifestPath) s s' := by
  rcases hrun : (run g.settings kind config).outcome g.reconciler s with ⟨result₁, m, s₁⟩
  rw [outcome_generate hrun] at h
  obtain ⟨-, rfl⟩ : g' = { g with reconciler := m } ∧ s' = s₁ := by
    cases h
    exact ⟨rfl, rfl⟩
  rw [outcome_run] at hrun
  rcases hartifacts : (artifactStage g.settings kind config).outcome s with ⟨f | p, mid⟩ <;>
    rw [hartifacts] at hrun
  · cases hrun
    exact (keeps_artifactStage_growsAt.of_outcome hartifacts).mono fun q => .inl
  · have hstart := keeps_artifactStage_growsAt.of_outcome hartifacts
    have hfinish := (keeps_packageStage g.settings kind config p).of_outcome hrun
    exact trans_of _ (hstart.mono fun q => .inl) (hfinish.mono fun q => .inr)

/-- A location is at the end of the segments of an artifact, as the file system spells them, counted
from where its directory is. -/
def InDirectory (st : Settings) (kind : ComponentKind) (config : Option ComponentConfig)
    (s : Session) (l : Location) : Prop :=
  ∃ key ∈ kind.artifacts, ∃ base,
    s.tree.locate s.workingDir (directory st key) = .ok base ∧
      l = base ++ (st.layout.segmentsOf kind (componentName kind config) key).map FileName.spelled

/-- What an artifact's path leads to is in its directory. -/
theorem inDirectory_of_destined {s : Session} {l : Location} {q : Path}
    (hconfig : ∀ c, config = some c → ∃ raw, ComponentConfig.ofEntries raw = .ok c)
    (hext : Path.slash ∉ st.fileExtension) (hq : Destined st kind config q)
    (hl : s.tree.locate s.workingDir q = .ok l) : InDirectory st kind config s l := by
  have hname : ComponentConfig.isName (componentName kind config) = true :=
    isName_componentName hconfig
  obtain ⟨key, hkey, place, hplace, rfl⟩ := hq
  rw [joinParts_place hname hext hplace hkey, componentName,
    Layout.effectiveName_effectiveName] at hl
  obtain ⟨base, hbase, hbelow⟩ :=
    FileTree.exists_locate_of_goesDown (goesDown_destination hname hext kind key) hl
  exact ⟨key, hkey, base, hbase, hbelow⟩

/-- The artifacts of a component stay in the directories of their settings. -/
structure Contained (g : Generator) (kind : ComponentKind) (config : Option ComponentConfig) :
    Prop where
  /-- there is a plan, with the destination of each artifact -/
  plan : g.plan kind (givenName config) = .ok (kind.artifacts.map fun key =>
    (Text.ofString key.name, destination g.settings kind (componentName kind config) key))
  /-- a destination is reached from the directory of its artifact by segments that lead down -/
  goesDown : ∀ key ∈ kind.artifacts, (directory g.settings key).GoesDown
    (g.settings.layout.segmentsOf kind (componentName kind config) key)
    (destination g.settings kind (componentName kind config) key)
  /-- there is one such segment for a page component, and two or three for a data route -/
  length : ∀ key ∈ kind.artifacts,
    (g.settings.layout.segmentsOf kind (componentName kind config) key).length
      = match key, kind with
        | .component, _ => 1
        | .api, .stats => 3
        | .api, _ => 2
  /-- whatever comes of making the artifacts, files are written in these directories only -/
  made : ∀ (s : Session) (result : Except Failure Progress) (s' : Session),
    (artifactStage g.settings kind config).outcome s = (result, s') →
      ∀ l, s.NewFile s' l → InDirectory g.settings kind config s' l
  /-- whatever comes of the run, no file is written anywhere else but the manifest -/
  written : ∀ (s : Session) (result : Except Failure Report) (g' : Generator) (s' : Session),
    (generate kind config).outcome g s = (result, g', s') →
      ∀ l, s.NewFile s' l → InDirectory g.settings kind config s' l ∨
        s'.tree.locate s'.workingDir g.settings.manifestPath = .ok l

/-- No config brings an artifact out of its directory, wherever the directory lies, if the extension
of files holds no slash. -/
theorem generate_contained {g : Generator} {kind : ComponentKind} {config : Option ComponentConfig}
    (hconfig : ∀ c, config = some c → ∃ raw, ComponentConfig.ofEntries raw = .ok c)
    (hext : Path.slash ∉ g.settings.fileExtension) : Contained g kind config where
  plan := plan_eq g (isName_givenName hconfig) hext kind
  goesDown key _ := goesDown_destination (isName_componentName hconfig) hext kind key
  length key _ := by
    cases key with
    | component => rfl
    | api => cases kind <;> rfl
  made := by
    intro s result s' hrun l hnew
    obtain ⟨q, hq, hl⟩ := (keeps_artifactStage_growsAt.of_outcome hrun).exists_of_newFile hnew
    exact inDirectory_of_destined hconfig hext hq hl
  written := by
    intro s result g' s' hrun l hnew
    obtain ⟨q, hq | rfl, hl⟩ := (generate_growsAt hrun).exists_of_newFile hnew
    · exact .inl (inDirectory_of_destined hconfig hext hq hl)
    · exact .inr hl

/-- Settings with a directory for page components beside the project, and one for data routes that
has nothing to do with it. -/
def scatteredSettings : Settings :=
  { sampleSettings with componentDir := "../shared/parts", apiDir := "/srv/api" }

/-- The statistics of a pump go to these directories, and there only down. -/
theorem generate_contained_scatteredSettings :
    ComponentConfig.ofEntries sampleEntries = .ok sampleConfig ∧
      Path.slash ∉ scatteredSettings.fileExtension ∧
        Contained (.new scatteredSettings) .stats (some sampleConfig) ∧
          plan (.new scatteredSettings) .stats "Pump" = .ok [
            ("component", ⟨.root, ["project", "..", "shared", "parts", "PumpStatistics.js"]⟩),
            ("api", ⟨.root, ["srv", "api", "pump", "statistics", "route.js"]⟩)] := by
  have hext : Path.slash ∉ scatteredSettings.fileExtension := by decide
  have hcontained : Contained (.new scatteredSettings) .stats (some sampleConfig) := by
    refine generate_contained ?_ hext
    rintro c ⟨⟩
    exact ⟨sampleEntries, ofEntries_sampleEntries⟩
  refine ⟨ofEntries_sampleEntries, hext, hcontained, ?_⟩
  exact hcontained.plan.trans (by decide +kernel)

end Generator

end DashboardKit
