import DashboardKit.Proofs.Generation.Guidance
import DashboardKit.Proofs.Generation.Refusals

/-!
# Following the guide to the files

The guide tells where the file of a data route is, and how a page component is imported.  Both lead
back to what was written: the file is told from the root of the project, and so is what is imported,
once the mark in front is read as the directory that sources are counted from.

Main statement: `Generator.generate_leadsBack`.
-/

set_option autoImplicit false

namespace DashboardKit

variable {kind : ComponentKind} {key : ArtifactKey} {name : Text}

/-! ## Imports -/

namespace Layout

variable {l : Layout}

/-- What the mark of an import stands for: the directory of the sources if page components lie in
it, and the root of the project otherwise. -/
def sourceRoot (l : Layout) : Text :=
  if l.componentDir.segments.head? = some ("src" : Text) then "src/" else []

/-- The file that is imported by a specifier, from the root of the project.  The extension is not
part of the specifier. -/
def importedFile? (l : Layout) (specifier : Text) : Option Text :=
  (Text.after? "@/" specifier).map fun rest => l.sourceRoot ++ rest ++ l.extension

/-- What is imported is the file of the stem in the directory of page components. -/
theorem importedFile?_importPath (hdir : l.componentDir.isAbsolute = false) (kind : ComponentKind)
    (name : Text) :
    l.importedFile? (l.importPath kind name) = some (Text.join [Path.slash]
      (l.componentDir.segments ++ [fileStem kind (effectiveName kind name) ++ l.extension])) := by
  have hparts : l.componentDir.parts = l.componentDir.segments := by
    have hhere : l.componentDir.anchor = .here := by simpa [Path.isAbsolute] using hdir
    rw [Path.parts, hhere]
  rw [importedFile?, importPath, hparts, Text.after?_eq_some_iff.2 rfl, Option.map_some,
    ← Text.join_concat_append, sourceRoot]
  by_cases hsrc : l.componentDir.segments.head? = some ("src" : Text)
  · obtain ⟨rest, hrest⟩ := List.head?_eq_some_iff.1 hsrc
    rw [if_pos hsrc, hrest]
    cases rest <;> rfl
  · rw [if_neg hsrc, if_neg hsrc, List.nil_append]

/-- What is imported is the page component, wherever the project lies. -/
theorem joinText_importedFile {p : Path} (hname : ComponentConfig.isName name = true)
    (hdir : l.componentDir.isAbsolute = false)
    (hproper : ∀ s ∈ l.componentDir.segments, Path.ProperSegment s)
    (hplace : l.place kind .component name = .ok p) (root : Path) :
    (l.importedFile? (l.importPath kind name)).map root.joinText
      = some (root.joinParts p.parts) := by
  have hstem : Path.BeginsFileName (fileStem kind (effectiveName kind name)) :=
    (beginsArtifactName_fileStem (isName_effectiveName hname)).toBeginsFileName
  have hhere : l.componentDir.anchor = .here := by simpa [Path.isAbsolute] using hdir
  obtain rfl := Except.ok.inj hplace
  rw [importedFile?_importPath hdir, Option.map_some,
    Path.joinParts_parts root (Path.proper_joinText hproper _), hstem.joinText_append, hhere,
    Path.joinText, hstem.ofText_join _ hproper]

end Layout

/-! ## Reading the guide -/

namespace Guide

variable {gd : Guide} {r : Report} {told route : List Text} {opening pointer : Text}

/-- What the first line goes on with that opens in a given way. -/
def told? (opening : Text) (lines : List Text) : Option Text :=
  lines.findSome? (Text.after? opening)

theorem told?_append (opening : Text) (front behind : List Text) :
    told? opening (front ++ behind) = (told? opening front).or (told? opening behind) :=
  List.findSome?_append

theorem told?_append_of_none {front : List Text} (h : told? opening front = none)
    (behind : List Text) : told? opening (front ++ behind) = told? opening behind := by
  rw [told?_append, h, Option.none_or]

theorem told?_cons_self (opening t : Text) (lines : List Text) :
    told? opening ((opening ++ t) :: lines) = some t := by
  rw [told?, List.findSome?_cons, Text.after?_eq_some_iff.2 rfl]

/-- Nothing is told of an artifact by lines that do not point at it. -/
theorem told?_eq_none (hpointer : pointer ∈ pointers key) (h : ¬ PointsAt told key) (t : Text) :
    told? (pointer ++ t) told = none := by
  refine List.findSome?_eq_none_iff.2 fun line hline => ?_
  cases hafter : Text.after? (pointer ++ t) line with
  | none => rfl
  | some rest =>
    have hbegins : pointer <+: line := by
      rw [Text.after?_eq_some_iff.1 hafter, List.append_assoc]
      exact List.prefix_append _ _
    exact absurd ⟨line, hline, pointer, hpointer, hbegins⟩ h

/-- How the line opens that tells the file of the data route. -/
def fileOpening : Text := "   File location: "

/-- How the line opens that tells how the page component is imported. -/
def importOpening (r : Report) : Text :=
  ("   import " : Text) ++ (Layout.fileStem r.kind r.name ++ (" from '" : Text))

/-- The specifier is told with a quote behind it. -/
theorem told?_importOpening (gd : Guide) (r : Report) (route : List Text) :
    told? (importOpening r) (gd.toldLines r route)
      = some (gd.layout.importPath r.kind r.name ++ ("'" : Text)) := by
  have hpointer : ("   import " : Text) ∈ pointers .component := by decide
  have hnone {lines : List Text} (h : ¬ PointsAt lines .component) :
      told? (importOpening r) lines = none := told?_eq_none hpointer h _
  have hline : gd.importLine r
      = importOpening r ++ (gd.layout.importPath r.kind r.name ++ ("'" : Text)) := by
    simp only [importLine, importOpening, List.append_assoc]
  rw [toldLines, usageLines_eq, List.append_assoc,
    told?_append_of_none (hnone not_pointsAt_variables), List.append_assoc,
    told?_append_of_none (hnone not_pointsAt_usageHeading), hline]
  exact told?_cons_self _ _ route

/-- The file of the data route is told behind its address. -/
theorem told?_fileOpening (gd : Guide) (r : Report) (file : Path) :
    told? fileOpening (gd.toldLines r [gd.endpointLine r, locationLine file]) = some file.text := by
  have hpointer : fileOpening ∈ pointers .api := by decide
  have husage : ¬ PointsAt (gd.usageLines r (usageStep r.kind)) .api := by
    rw [pointsAt_usageLines]
    exact nofun
  have hnone {lines : List Text} (h : ¬ PointsAt lines .api) : told? fileOpening lines = none := by
    have hnil := told?_eq_none hpointer h []
    rwa [List.append_nil] at hnil
  have hendpoint : Text.after? fileOpening (gd.endpointLine r) = none := rfl
  rw [toldLines, List.append_assoc, told?_append_of_none (hnone not_pointsAt_variables),
    told?_append_of_none (hnone husage), told?, List.findSome?_cons, hendpoint]
  exact told?_cons_self fileOpening file.text []

end Guide

/-! ## Runs -/

namespace Generator

open Guide Session

variable {st : Settings} {g g' : Generator} {config : Option ComponentConfig} {context : Entries}
  {keys : List ArtifactKey} {written : Written} {skipped : List Text} {s s' : Session}
  {r : Report}

/-- What was noted of an artifact is what was planned for it. -/
theorem Made.plannedAt (h : Made st kind name context keys s written skipped s') :
    ∀ e ∈ written, ∃ key ∈ keys, e.1 = Text.ofString key.name ∧
      PlannedAt st kind name key e.2 := by
  induction h with
  | done s => exact fun e he => absurd he List.not_mem_nil
  | @skip key f keys s mid s' written skipped _ _ _ ih =>
    intro e he
    obtain ⟨k, hk, hplanned⟩ := ih e he
    exact ⟨k, List.mem_cons_of_mem key hk, hplanned⟩
  | @write key path octets keys s mid s' written skipped hcomes _ _ _ ih =>
    intro e he
    rcases List.mem_cons.1 he with rfl | he
    · obtain ⟨t, place, content, -, hplace, hpath, -⟩ := hcomes
      exact ⟨key, List.mem_cons_self, rfl, place, hplace, hpath⟩
    · obtain ⟨k, hk, hplanned⟩ := ih e he
      exact ⟨k, List.mem_cons_of_mem key hk, hplanned⟩

/-- The report on a run is on artifacts of its kind, each of them where it was planned. -/
theorem plannedAt_of_generate (hrun : (generate kind config).outcome g s = (.ok r, g', s')) :
    r.kind = kind ∧ r.name = componentName kind config ∧
      (∀ key, r.Wrote key → key ∈ kind.artifacts) ∧
      ∀ key path, r.path? key = some path →
        PlannedAt g.settings kind (componentName kind config) key path := by
  obtain ⟨m', hrun', -⟩ := generate_eq_ok_iff.1 hrun
  obtain ⟨p, mid, hartifacts, hpackages⟩ := run_eq_ok_iff.1 hrun'
  obtain ⟨context, start, -, -, hmade⟩ := artifactStage_eq_ok hartifacts
  obtain ⟨hname, hwritten, -⟩ := packageStage_eq_ok hpackages
  rw [← hwritten] at hmade
  refine ⟨kind_of_packageStage hpackages, hname, ?_, ?_⟩
  · intro key hwrote
    obtain ⟨e, he, hekey⟩ := List.mem_map.1 hwrote
    obtain ⟨k, hk, hkname, -⟩ := hmade.plannedAt e he
    rwa [← ArtifactKey.eq_of_name (hkname.symm.trans hekey)]
  · intro key path hpath
    obtain ⟨k, -, hkname, hplanned⟩ := hmade.plannedAt _ (Report.mem_of_path?_eq_some hpath)
    rwa [ArtifactKey.eq_of_name hkname]

/-- What the guide for a report tells leads back to what was written. -/
structure LeadsBack (gd : Guide) (st : Settings) (r : Report) (told : List Text) : Prop extends
    gd.Presents r told where
  /-- the file that is told of the data route, from the root of the project, is where it was
  written; none is told if it was not -/
  routeFile : (told? fileOpening told).map st.projectRoot.joinText = r.path? .api
  /-- the file that is imported by the specifier that is told, without the quote behind it, is where
  the page component was written, if it was -/
  importedFile : ∀ path, r.path? .component = some path →
    ((told? (importOpening r) told).bind fun t => gd.layout.importedFile? t.dropLast).map
      st.projectRoot.joinText = some path

theorem componentDir_proper (st : Settings) :
    ∀ s ∈ st.layout.componentDir.segments, Path.ProperSegment s :=
  fun _ => Path.ofText_segments_proper

/-- The file that is told of a data route is where it was planned. -/
theorem joinText_place {name : Text} {file path : Path}
    (hplace : st.layout.place kind .api name = .ok file)
    (hplanned : PlannedAt st kind name .api path) : st.projectRoot.joinText file.text = path := by
  obtain ⟨file', hplace', rfl⟩ := hplanned
  obtain rfl := Except.ok.inj (hplace.symm.trans hplace')
  have hproper := Layout.proper_place (componentDir_proper st)
    (fun _ => Path.ofText_segments_proper) hplace
  rw [Path.joinText, Path.ofText_text hproper, Path.joinParts_parts _ hproper]

/-- If page components go to a directory of the project, the guide for the report of a run leads
back to every file that was written, whatever the other settings are. -/
theorem generate_leadsBack
    (hconfig : ∀ c, config = some c → ∃ raw, ComponentConfig.ofEntries raw = .ok c)
    (hdir : g.settings.layout.componentDir.isAbsolute = false)
    (hrun : (generate kind config).outcome g s = (.ok r, g', s')) {gd : Guide}
    (hlayout : gd.layout = g.settings.layout) :
    ∃ told, LeadsBack gd g.settings r told := by
  obtain ⟨rfl, hname, hkind, hplanned⟩ := plannedAt_of_generate hrun
  have hisName : ComponentConfig.isName r.name = true := hname ▸ isName_componentName hconfig
  rw [← hname] at hplanned
  obtain ⟨route, hroute, hpoints, hfile⟩ := gd.exists_routeLines (hkind .api)
  refine ⟨gd.toldLines r route, presents_toldLines hroute hpoints hfile, ?_, ?_⟩
  · cases hpath : r.path? .api with
    | none =>
      have hnot : ¬ PointsAt (gd.toldLines r route) .api := by
        rw [pointsAt_toldLines, hpoints]
        rintro (h | h)
        · cases h
        · exact Report.path?_eq_none_iff.1 hpath h.2
      have hnone : told? (fileOpening ++ []) (gd.toldLines r route) = none :=
        told?_eq_none (by decide) hnot []
      rw [List.append_nil] at hnone
      rw [hnone, Option.map_none]
    | some path =>
      have hwrote : r.Wrote .api := by
        by_contra hnot
        rw [Report.path?_eq_none_iff.2 hnot] at hpath
        cases hpath
      obtain ⟨file, hplace, rfl⟩ := hfile hwrote
      rw [hlayout] at hplace
      rw [told?_fileOpening, Option.map_some, joinText_place hplace (hplanned .api path hpath)]
  · intro path hpath
    obtain ⟨place, hplace, rfl⟩ := hplanned .component path hpath
    have himported := Layout.joinText_importedFile hisName hdir (componentDir_proper g.settings)
      hplace g.settings.projectRoot
    have hquote (t : Text) : (t ++ ("'" : Text)).dropLast = t := List.dropLast_concat
    rw [told?_importOpening, Option.bind_some, hquote, hlayout]
    exact himported

/-- Settings with page components below the sources and data routes beside the project. -/
def sourcedSettings : Settings :=
  { sampleSettings with
    componentDir := "./src//parts", apiDir := "../routes", fileExtension := ".jsx" }

/-- A session with the templates of statistics. -/
def sourcedSession : Session :=
  .start ⟨[
      (["project"], .dir),
      (["templates"], .dir),
      (["templates", "stats-component.jsx"], .file [0x3c, 0x3e]),
      (["templates", "stats-api.jsx"], .file [0x47, 0x45, 0x54])]⟩
    ["project"] ⟨.root, ["templates"]⟩ []

/-- The statistics of a pump are imported from the sources, and their data route lies above them. -/
theorem generate_leadsBack_sourcedSession :
    ComponentConfig.ofEntries sampleEntries = .ok sampleConfig ∧
      sourcedSettings.layout.componentDir.isAbsolute = false ∧
      ∃ r g' s' told, (generate .stats (some sampleConfig)).outcome (.new sourcedSettings)
          sourcedSession = (.ok r, g', s') ∧
        r.path? .component = some ⟨.root, ["project", "src", "parts", "PumpStatistics.jsx"]⟩ ∧
        r.path? .api
          = some ⟨.root, ["project", "..", "routes", "pump", "statistics", "route.jsx"]⟩ ∧
        LeadsBack (.new sourcedSettings.layout none []) sourcedSettings r told := by
  have hdir : sourcedSettings.layout.componentDir.isAbsolute = false := by decide
  have hreport : ((generate .stats (some sampleConfig)).outcome (.new sourcedSettings)
      sourcedSession).1.toOption.map (fun r => (r.path? .component, r.path? .api))
      = some (some ⟨.root, ["project", "src", "parts", "PumpStatistics.jsx"]⟩,
        some ⟨.root, ["project", "..", "routes", "pump", "statistics", "route.jsx"]⟩) := by
    decide +kernel
  obtain ⟨r, g', s', hrun, hpaths⟩ := ActionOf.exists_outcome_of_toOption_map hreport
  obtain ⟨hcomponent, hapi⟩ := Prod.mk.inj hpaths
  have hconfig : ∀ c, some sampleConfig = some c → ∃ raw, ComponentConfig.ofEntries raw = .ok c :=
    fun c hc => ⟨sampleEntries, Option.some.inj hc ▸ ofEntries_sampleEntries⟩
  have hlayout : (Guide.new sourcedSettings.layout none []).layout = sourcedSettings.layout := rfl
  obtain ⟨told, hleadsBack⟩ := generate_leadsBack hconfig hdir hrun hlayout
  exact ⟨ofEntries_sampleEntries, hdir, r, g', s', told, hrun, hcomponent, hapi, hleadsBack⟩

end Generator

end DashboardKit
