import DashboardKit.Generation.Guide
import DashboardKit.Proofs.Generation.Reports
import DashboardKit.Proofs.Text.Beginnings

/-!
# What the guide points at

After a run the guide tells how to import the page component, and where the data route is.  The
route is told of only if it was written; the import is told of always, also where the page component
was skipped.

Main statement: `Generator.generate_guides`.
-/

set_option autoImplicit false

namespace DashboardKit

variable {kind : ComponentKind} {config : Option ComponentConfig} {key : ArtifactKey}

/-! ## What was written -/

namespace Report

variable {r : Report}

/-- An artifact is among those that were written. -/
def Wrote (r : Report) (key : ArtifactKey) : Prop := Text.ofString key.name ∈ r.written.map (·.1)

instance (r : Report) (key : ArtifactKey) : Decidable (r.Wrote key) :=
  inferInstanceAs (Decidable (_ ∈ _))

theorem path?_eq_none_iff : r.path? key = none ↔ ¬ r.Wrote key := by
  rw [path?, Written.path?, Option.map_eq_none_iff, List.find?_eq_none, Wrote, List.mem_map]
  simp only [decide_eq_true_eq, not_exists, not_and]

theorem mem_of_path?_eq_some {p : Path} (h : r.path? key = some p) :
    (Text.ofString key.name, p) ∈ r.written := by
  obtain ⟨⟨name, path⟩, hfound, rfl⟩ := Option.map_eq_some_iff.1 h
  obtain rfl : name = Text.ofString key.name := by simpa using List.find?_some hfound
  exact List.mem_of_find?_eq_some hfound

end Report

/-! ## Lines of the guide -/

namespace Guide

variable {gd : Guide} {r : Report} {told route : List Text}

/-- How the lines begin that point at an artifact: a page component is to be imported, a data route
has an address and a file. -/
def pointers : ArtifactKey → List Text
  | .component => ["   import "]
  | .api => ["   API endpoint: ", "   File location: "]

/-- One of these lines points at an artifact. -/
def PointsAt (told : List Text) (key : ArtifactKey) : Prop :=
  ∃ line ∈ told, ∃ pointer ∈ pointers key, pointer <+: line

instance (told : List Text) (key : ArtifactKey) : Decidable (PointsAt told key) :=
  inferInstanceAs (Decidable (∃ line ∈ told, ∃ pointer ∈ pointers key, pointer <+: line))

theorem pointsAt_append {front : List Text} :
    PointsAt (front ++ told) key ↔ PointsAt front key ∨ PointsAt told key := by
  simp only [PointsAt, List.mem_append, or_and_right, exists_or]

theorem not_pointsAt_nil : ¬ PointsAt [] key := by
  rintro ⟨line, hline, -⟩
  exact absurd hline List.not_mem_nil

theorem four_le_length_pointers : ∀ pointer ∈ pointers key, 4 ≤ pointer.length := by
  cases key <;> decide

/-- Four signs tell the lines of the artifacts apart. -/
theorem take_pointers_ne {key' : ArtifactKey} (hne : key ≠ key') :
    ∀ pointer ∈ pointers key, ∀ pointer' ∈ pointers key', pointer.take 4 ≠ pointer'.take 4 := by
  cases key <;> cases key'
  case component.api => decide
  case api.component => decide
  all_goals exact absurd rfl hne

/-- A line that begins like those of one artifact points at no other. -/
theorem pointsAt_singleton {pointer rest : Text} {key' : ArtifactKey}
    (hpointer : pointer ∈ pointers key') : PointsAt [pointer ++ rest] key ↔ key = key' := by
  constructor
  · rintro ⟨line, hline, opening, hopening, hbegins⟩
    obtain rfl := List.mem_singleton.1 hline
    by_contra hne
    have hopen := take_pointers_ne hne opening hopening pointer hpointer
    exact Text.not_prefix_of_take_ne 4 (List.prefix_append pointer rest)
      (four_le_length_pointers opening hopening) (four_le_length_pointers pointer hpointer) hopen
      hbegins
  · rintro rfl
    exact ⟨_, List.mem_singleton_self _, pointer, hpointer, List.prefix_append _ _⟩

/-- The line that tells how to import the page component. -/
def importLine (gd : Guide) (r : Report) : Text :=
  ("   import " : Text) ++ Layout.fileStem r.kind r.name ++ (" from '" : Text)
    ++ gd.layout.importPath r.kind r.name ++ ("'" : Text)

/-- The number of the step in which the component is imported. -/
def usageStep (kind : ComponentKind) : Nat := if kind.needsConfig then 2 else 1

/-- The lines in front of the step in which packages are installed. -/
def toldLines (gd : Guide) (r : Report) (route : List Text) : List Text :=
  (if r.kind.needsConfig then variableLines 1 else [])
    ++ gd.usageLines r (usageStep r.kind) ++ route

theorem lines_eq (hroute : gd.routeLines r = .ok route) :
    gd.lines r
      = .ok (gd.toldLines r route ++ gd.installLines r (usageStep r.kind + 1)) := by
  rw [lines, hroute]
  rfl

theorem not_pointsAt_variableLines : ¬ PointsAt (variableLines 1) key := by
  cases key <;> decide +kernel

/-- The heading of the lines about using the component. -/
def usageHeading (kind : ComponentKind) : Text :=
  step (usageStep kind) "Import and use your component in your Next.js app:"

theorem not_pointsAt_usageHeading : ¬ PointsAt [usageHeading kind] key := by
  cases kind <;> cases key <;> decide +kernel

theorem usageLines_eq :
    gd.usageLines r (usageStep kind) = [usageHeading kind] ++ [gd.importLine r] := rfl

/-- The lines about using the component point at the page component. -/
theorem pointsAt_usageLines :
    PointsAt (gd.usageLines r (usageStep kind)) key ↔ key = .component := by
  rw [usageLines_eq, pointsAt_append, or_iff_right not_pointsAt_usageHeading]
  simp only [importLine, List.append_assoc]
  exact pointsAt_singleton (List.mem_singleton_self _)

theorem not_pointsAt_variables :
    ¬ PointsAt (if r.kind.needsConfig then variableLines 1 else []) key := by
  split
  · exact not_pointsAt_variableLines
  · exact not_pointsAt_nil

theorem pointsAt_toldLines :
    PointsAt (gd.toldLines r route) key ↔ key = .component ∨ PointsAt route key := by
  rw [toldLines, pointsAt_append, pointsAt_append, or_iff_right not_pointsAt_variables,
    pointsAt_usageLines]

/-- The line that tells the address of the data route. -/
def endpointLine (gd : Guide) (r : Report) : Text :=
  ("   API endpoint: " : Text) ++ gd.layout.endpoint r.kind r.name

/-- The line that tells the file of the data route. -/
def locationLine (file : Path) : Text := ("   File location: " : Text) ++ file.text

/-- The data route is told of if it was written. -/
theorem exists_routeLines (gd : Guide) (hkind : r.Wrote .api → .api ∈ r.kind.artifacts) :
    ∃ route, gd.routeLines r = .ok route ∧
      (∀ key, PointsAt route key ↔ key = .api ∧ r.Wrote .api) ∧
      (r.Wrote .api → ∃ file, gd.layout.place r.kind .api r.name = .ok file ∧
        route = [gd.endpointLine r, locationLine file]) := by
  unfold routeLines
  cases hpath : r.path? .api with
  | none =>
    have hnot := Report.path?_eq_none_iff.1 hpath
    refine ⟨[], rfl, fun key => ?_, fun hwrote => absurd hwrote hnot⟩
    exact iff_of_false not_pointsAt_nil fun h => hnot h.2
  | some p =>
    have hwrote : r.Wrote .api := by
      by_contra hnot
      rw [Report.path?_eq_none_iff.2 hnot] at hpath
      exact absurd hpath (by simp)
    obtain ⟨file, hplace⟩ := Layout.exists_place gd.layout r.name (hkind hwrote)
    simp only [hplace]
    refine ⟨_, rfl, fun key => ?_, fun _ => ⟨file, rfl, rfl⟩⟩
    have hendpoint : ("   API endpoint: " : Text) ∈ pointers .api := by decide
    have hlocation : ("   File location: " : Text) ∈ pointers .api := by decide
    rw [← List.singleton_append, pointsAt_append, pointsAt_singleton hendpoint,
      pointsAt_singleton hlocation, or_self, and_iff_left hwrote]

/-- What the guide for a report tells in front of the step in which packages are installed. -/
structure Presents (gd : Guide) (r : Report) (told : List Text) : Prop where
  /-- the guide can be rendered -/
  rendered : gd.text r = .ok ((told ++ gd.installLines r (usageStep r.kind + 1)).flatMap
    (· ++ [.scalar '\n']))
  /-- whatever was written, the page component is to be imported -/
  component : gd.importLine r ∈ told ∧ PointsAt told .component
  /-- the data route is pointed at exactly if it was written -/
  api : PointsAt told .api ↔ r.Wrote .api
  /-- then its address is told, and its place -/
  route : r.Wrote .api → ∃ file, gd.layout.place r.kind .api r.name = .ok file ∧
    gd.endpointLine r ∈ told ∧ locationLine file ∈ told

/-- The lines of a guide present a report if those about the data route do. -/
theorem presents_toldLines (hroute : gd.routeLines r = .ok route)
    (hpoints : ∀ key, PointsAt route key ↔ key = .api ∧ r.Wrote .api)
    (hfile : r.Wrote .api → ∃ file, gd.layout.place r.kind .api r.name = .ok file ∧
      route = [gd.endpointLine r, locationLine file]) :
    gd.Presents r (gd.toldLines r route) := by
  have htold (key : ArtifactKey) : PointsAt (gd.toldLines r route) key ↔
      key = .component ∨ key = .api ∧ r.Wrote .api := by
    rw [pointsAt_toldLines, hpoints]
  refine ⟨?_, ⟨?_, ?_⟩, ?_, ?_⟩
  · rw [text, lines_eq hroute]
    rfl
  · simp [toldLines, usageLines, importLine]
  · exact (htold .component).2 (.inl rfl)
  · simp [htold]
  · intro hwrote
    obtain ⟨file, hplace, rfl⟩ := hfile hwrote
    exact ⟨file, hplace, by simp [toldLines], by simp [toldLines]⟩

/-- There is a guide for every report on artifacts that its kind has. -/
theorem exists_presents (gd : Guide) (hkind : r.Wrote .api → .api ∈ r.kind.artifacts) :
    ∃ told, gd.Presents r told := by
  obtain ⟨route, hroute, hpoints, hfile⟩ := gd.exists_routeLines hkind
  exact ⟨gd.toldLines r route, presents_toldLines hroute hpoints hfile⟩

end Guide

/-! ## Runs -/

namespace Generator

open Guide Session

variable {st : Settings} {g g' : Generator} {s s' : Session} {m m' : Reconciler} {r : Report}
  {p : Progress}

theorem kind_of_packageStage
    (h : (packageStage st kind config p).outcome m s = (.ok r, m', s')) : r.kind = kind := by
  unfold packageStage at h
  obtain ⟨r₁, _, s₁, hreconcile, hrest⟩ := ActionOf.outcome_bind_eq_ok.1 h
  have hkind := (reconcileInto_eq_ok hreconcile).1
  split at hrest
  · cases hrest
    exact hkind
  · obtain ⟨warnings, _, s₂, -, hpure⟩ := ActionOf.outcome_bind_eq_ok.1 hrest
    cases hpure
    exact hkind

/-- The report on a run is on artifacts of its kind: those whose template can be loaded, each of
them at its place. -/
theorem wrote_of_generate
    (hconfig : ∀ c, config = some c → ∃ raw, ComponentConfig.ofEntries raw = .ok c)
    (htree : s.tree.Consistent)
    (hrun : (generate kind config).outcome g s = (.ok r, g', s')) :
    r.kind = kind ∧
      (∀ key, r.Wrote key ↔ key ∈ kind.artifacts ∧ loads g.settings kind s key = true) ∧
      (∀ key place, g.settings.layout.place kind key r.name = .ok place → r.Wrote key →
        r.path? key = some (g.settings.projectRoot.joinParts place.parts)) := by
  obtain ⟨m', hrun', -⟩ := generate_eq_ok_iff.1 hrun
  obtain ⟨p, mid, hartifacts, hpackages⟩ := run_eq_ok_iff.1 hrun'
  obtain ⟨context, start, -, hprint, hmade⟩ := artifactStage_eq_ok hartifacts
  obtain ⟨hname, hwritten, -⟩ := packageStage_eq_ok hpackages
  rw [← hwritten, ← hname] at hmade
  have hisName : ComponentConfig.isName r.name = true := hname ▸ isName_componentName hconfig
  have hkept : TemplatesKept g.settings s start := (TemplatesKept.refl _ s).skip hprint
  refine ⟨kind_of_packageStage hpackages, ?_, ?_⟩
  · intro key
    rw [Report.Wrote, (hmade.keys_eq_filter htree hisName hkept).1, List.mem_map,
      ← List.mem_filter]
    constructor
    · rintro ⟨key', hkey', hsame⟩
      rwa [← ArtifactKey.eq_of_name hsame]
    · intro hkey
      exact ⟨key, hkey, rfl⟩
  · intro key place hplace hwrote
    cases hpath : r.path? key with
    | none => exact absurd hwrote (Report.path?_eq_none_iff.1 hpath)
    | some path =>
      obtain ⟨key', -, hsame, octets, ⟨t, place', content, -, hplace', hpath', -⟩, -⟩ :=
        hmade.comesTo htree hisName hkept _ (Report.mem_of_path?_eq_some hpath)
      obtain rfl := ArtifactKey.eq_of_name hsame
      obtain rfl := Except.ok.inj (hplace.symm.trans hplace')
      exact congrArg some hpath'

/-- What the guide for the report of a run points at. -/
structure Guides (gd : Guide) (st : Settings) (kind : ComponentKind) (s : Session) (r : Report)
    (told : List Text) : Prop extends gd.Presents r told where
  /-- the place that is told of the data route is where it was written, if the guide is made with
  the layout of the run -/
  inPlace : gd.layout = st.layout → ∀ file, gd.layout.place r.kind .api r.name = .ok file →
    r.Wrote .api → r.path? .api = some (st.projectRoot.joinParts file.parts)
  /-- nothing is pointed at but what was written, exactly if the template of the page component can
  be loaded -/
  honest : (∀ key, PointsAt told key → r.Wrote key) ↔ loads st kind s .component = true

/-- The guide for the report of a run points at the page component, and at the data route if it was
written.  So it points at nothing else than what was written, exactly if the page component was not
skipped. -/
theorem generate_guides
    (hconfig : ∀ c, config = some c → ∃ raw, ComponentConfig.ofEntries raw = .ok c)
    (htree : s.tree.Consistent)
    (hrun : (generate kind config).outcome g s = (.ok r, g', s')) (gd : Guide) :
    ∃ told, Guides gd g.settings kind s r told := by
  obtain ⟨rfl, hwrote, hpath⟩ := wrote_of_generate hconfig htree hrun
  obtain ⟨told, hpresents⟩ := gd.exists_presents fun h => ((hwrote .api).1 h).1
  refine ⟨told, hpresents, ?_, ?_⟩
  · intro hlayout file hplace
    rw [hlayout] at hplace
    exact hpath .api file hplace
  · constructor
    · intro hhonest
      exact ((hwrote .component).1 (hhonest .component hpresents.component.2)).2
    · intro hloads key hpoints
      cases key with
      | component => exact (hwrote .component).2 ⟨r.kind.component_mem_artifacts, hloads⟩
      | api => exact hpresents.api.1 hpoints

/-- The guide that is made with the settings of the sample project. -/
def sampleGuide : Guide :=
  .new sampleSettings.layout (some sampleSettings.projectRoot) sampleSettings.installCommand

/-- Where the data route is skipped, the guide points at the page component and at nothing else. -/
theorem generate_guides_of_state :
    sampleSession.tree.Consistent ∧ ComponentConfig.ofEntries sampleEntries = .ok sampleConfig ∧
      ∃ r g' s' told, (generate .state (some sampleConfig)).outcome (.new sampleSettings)
          sampleSession = (.ok r, g', s') ∧
        r.written.map (·.1) = [("component" : Text)] ∧
        Guides sampleGuide sampleSettings .state sampleSession r told ∧
        ∀ key, PointsAt told key → r.Wrote key := by
  have htree : sampleSession.tree.Consistent := by decide
  have hreport : ((generate .state (some sampleConfig)).outcome (.new sampleSettings)
      sampleSession).1.toOption.map (fun r => r.written.map (·.1))
      = some [("component" : Text)] := by
    decide +kernel
  have hconfig : ∀ c, some sampleConfig = some c → ∃ raw, ComponentConfig.ofEntries raw = .ok c :=
    fun c hc => ⟨sampleEntries, Option.some.inj hc ▸ ofEntries_sampleEntries⟩
  obtain ⟨r, g', s', hrun, hwritten⟩ := ActionOf.exists_outcome_of_toOption_map hreport
  obtain ⟨told, hguides⟩ := generate_guides hconfig htree hrun sampleGuide
  have hwrote : r.Wrote .component := by
    rw [Report.Wrote, hwritten]
    exact List.mem_singleton_self _
  have hloads := (((wrote_of_generate hconfig htree hrun).2.1 .component).1 hwrote).2
  exact ⟨htree, ofEntries_sampleEntries, r, g', s', told, hrun, hwritten, hguides,
    hguides.honest.2 hloads⟩

/-- A session with the template of one data route, but of no page component. -/
def routeOnlySession : Session :=
  .start ⟨[
      (["project"], .dir),
      (["templates"], .dir),
      (["templates", "state-api.js"], .file [0x47, 0x45, 0x54])]⟩
    ["project"] ⟨.root, ["templates"]⟩ []

/-- A page component that was skipped is to be imported all the same. -/
theorem exists_guide_to_skipped :
    ¬ ∀ (gd : Guide) (g g' : Generator) (kind : ComponentKind) (config : Option ComponentConfig)
        (s s' : Session) (r : Report) (lines : List Text),
      (∀ c, config = some c → ∃ raw, ComponentConfig.ofEntries raw = .ok c) →
        s.tree.Consistent → (generate kind config).outcome g s = (.ok r, g', s') →
          r.written ≠ [] → gd.lines r = .ok lines →
            ∀ key, PointsAt lines key → r.Wrote key := by
  intro hall
  have htree : routeOnlySession.tree.Consistent := by decide
  have hreport : ((generate .state (some sampleConfig)).outcome (.new sampleSettings)
      routeOnlySession).1.toOption.map (fun r => (r.written.map (·.1),
        (sampleGuide.lines r).toOption.map fun lines => decide (PointsAt lines .component)))
      = some ([("api" : Text)], some true) := by
    decide +kernel
  obtain ⟨r, g', s', hrun, htold⟩ := ActionOf.exists_outcome_of_toOption_map hreport
  obtain ⟨hwritten, hlinesTold⟩ := Prod.mk.inj htold
  obtain ⟨lines, hlines, hpoints⟩ := exists_eq_ok_of_toOption_map hlinesTold
  have hne : r.written ≠ [] := by
    rintro hnil
    simp [hnil] at hwritten
  have hskipped : ¬ r.Wrote .component := by
    rw [Report.Wrote, hwritten]
    decide
  have hpoint : PointsAt lines .component := of_decide_eq_true hpoints
  refine hskipped (hall sampleGuide _ g' .state _ _ s' r lines ?_ htree hrun hne hlines _ hpoint)
  rintro c ⟨⟩
  exact ⟨sampleEntries, ofEntries_sampleEntries⟩

end Generator

end DashboardKit
