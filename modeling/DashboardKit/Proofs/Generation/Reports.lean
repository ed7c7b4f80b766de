import DashboardKit.Proofs.Component.Accepted
import DashboardKit.Proofs.Generation.Stages

/-!
# What a report says

If a component is generated, its report says where every artifact went: those whose template can be
loaded were written to the planned places, and the others were skipped.  The files are the rendered
templates, and no other file but the manifest was touched.

Main statement: `generate_report`.
-/

set_option autoImplicit false

namespace DashboardKit.Generator

open Session

variable {st : Settings} {kind : ComponentKind} {config : Option ComponentConfig}
  {s s' : Session} {m m' : Reconciler} {r : Report}

/-! ## Runs -/

/-- A run builds the values for templates, makes the artifacts in order, and brings the packages in
line. -/
theorem run_eq_ok (h : (run st kind config).outcome m s = (.ok r, m', s')) :
    ∃ context start mid, Context.build kind config = .ok context ∧ PrintsTo s start ∧
      Made st kind (componentName kind config) context kind.artifacts start r.written r.skipped
        mid ∧
      GrowsAt (· = st.manifestPath) mid s' ∧ r.name = componentName kind config := by
  obtain ⟨p, mid, hartifacts, hpackages⟩ := run_eq_ok_iff.1 h
  obtain ⟨context, start, hcontext, hprint, hmade⟩ := artifactStage_eq_ok hartifacts
  obtain ⟨hname, hwritten, hskipped⟩ := packageStage_eq_ok hpackages
  rw [← hwritten, ← hskipped] at hmade
  have hgrows := (keeps_packageStage st kind config p).of_outcome hpackages
  exact ⟨context, start, mid, hcontext, hprint, hmade, hgrows, hname⟩

theorem isName_givenName
    (hconfig : ∀ c, config = some c → ∃ raw, ComponentConfig.ofEntries raw = .ok c) :
    ComponentConfig.isName (givenName config) = true := by
  cases config with
  | none => decide
  | some c =>
    obtain ⟨raw, hraw⟩ := hconfig c rfl
    exact (ComponentConfig.describes_of_ofEntries hraw).isName

theorem isName_componentName
    (hconfig : ∀ c, config = some c → ∃ raw, ComponentConfig.ofEntries raw = .ok c) :
    ComponentConfig.isName (componentName kind config) = true :=
  isName_effectiveName (isName_givenName hconfig)

/-! ## Plans -/

theorem exists_planned (g : Generator) (n : Text) {keys : List ArtifactKey}
    (hkeys : ∀ key ∈ keys, key ∈ kind.artifacts) :
    ∃ planned : Written,
      (keys.mapM fun key => do
        let path ← g.settings.layout.place kind key n
        return (Text.ofString key.name, g.settings.projectRoot.joinParts path.parts))
        = .ok planned ∧
      ∀ key ∈ keys, ∀ place, g.settings.layout.place kind key n = .ok place →
        planned.path? (Text.ofString key.name)
          = some (g.settings.projectRoot.joinParts place.parts) := by
  induction keys with
  | nil => exact ⟨[], rfl, fun key hkey => absurd hkey List.not_mem_nil⟩
  | cons key keys ih =>
    obtain ⟨planned, hplanned, hpaths⟩ := ih fun k hk => hkeys k (List.mem_cons_of_mem key hk)
    obtain ⟨place, hplace⟩ :=
      Layout.exists_place g.settings.layout n (hkeys key List.mem_cons_self)
    refine ⟨(Text.ofString key.name, g.settings.projectRoot.joinParts place.parts) :: planned,
      ?_, ?_⟩
    · rw [List.mapM_cons, hplanned, hplace]
      rfl
    · intro k hk place' hplace'
      by_cases hsame : key = k
      · subst hsame
        obtain rfl := Except.ok.inj (hplace.symm.trans hplace')
        simp [Written.path?]
      · have hne : Text.ofString key.name ≠ Text.ofString k.name :=
          fun h => hsame (ArtifactKey.eq_of_name h)
        rw [Written.path?, List.find?_cons_of_neg (by simpa using hne)]
        exact hpaths k (List.mem_of_ne_of_mem (Ne.symm hsame) hk) place' hplace'

/-- A plan gives every artifact of a kind its path. -/
theorem exists_plan (g : Generator) (kind : ComponentKind) (n : Text) :
    ∃ planned : Written, g.plan kind n = .ok planned ∧
      ∀ key ∈ kind.artifacts, ∀ place, g.settings.layout.place kind key n = .ok place →
        planned.path? (Text.ofString key.name)
          = some (g.settings.projectRoot.joinParts place.parts) :=
  exists_planned g n fun _ hkey => hkey

/-! ## Reports -/

/-- What the report of a run from one session to another tells of it. -/
structure Tells (g : Generator) (kind : ComponentKind) (config : Option ComponentConfig)
    (s : Session) (r : Report) (s' : Session) : Prop where
  /-- the artifacts whose template can be loaded were written, in order -/
  written_keys :
    r.written.map (·.1)
      = (kind.artifacts.filter (loads g.settings kind s)).map fun key => Text.ofString key.name
  /-- the others were skipped, in order -/
  skipped_keys :
    r.skipped
      = (kind.artifacts.filter fun key => !loads g.settings kind s key).map
        fun key => Text.ofString key.name
  /-- what was written went where it was planned to go -/
  planned : ∃ planned : Written, g.plan kind r.name = .ok planned ∧
    ∀ e ∈ r.written, planned.path? e.1 = some e.2
  /-- what was written to a place of its own is the rendered template -/
  contents : r.written.Pairwise (fun a b => ¬ s'.SamePlace a.2 b.2) →
    (∀ e ∈ r.written, ¬ s'.SamePlace e.2 g.settings.manifestPath) →
      ∃ context, Context.build kind config = .ok context ∧
        ∀ e ∈ r.written, ∃ key ∈ kind.artifacts, e.1 = Text.ofString key.name ∧
          ∃ octets, ComesTo g.settings kind r.name context s key e.2 octets ∧
            s'.tree.readFile s'.workingDir e.2 = .ok octets
  /-- at any other place than these and that of the manifest the files are the same -/
  others : ∀ l octets, (∀ e ∈ r.written, s'.tree.locate s'.workingDir e.2 ≠ .ok l) →
    s'.tree.locate s'.workingDir g.settings.manifestPath ≠ .ok l →
      (s'.tree.find? l = some (.file octets) ↔ s.tree.find? l = some (.file octets))

/-- If generating a component gives a report, the report tells what was done. -/
theorem generate_report {g g' : Generator} {kind : ComponentKind}
    {config : Option ComponentConfig} {s s' : Session} {r : Report}
    (hconfig : ∀ c, config = some c → ∃ raw, ComponentConfig.ofEntries raw = .ok c)
    (htree : s.tree.Consistent)
    (hrun : (generate kind config).outcome g s = (.ok r, g', s')) :
    Tells g kind config s r s' := by
  obtain ⟨m', hrun', -⟩ := generate_eq_ok_iff.1 hrun
  obtain ⟨context, start, mid, hcontext, hprint, hmade, hgrows, hname⟩ := run_eq_ok hrun'
  have hisName : ComponentConfig.isName (componentName kind config) = true :=
    isName_componentName hconfig
  have hkept : TemplatesKept g.settings s start := (TemplatesKept.refl _ s).skip hprint
  have hcomes := hmade.comesTo htree hisName hkept
  obtain ⟨hwritten, hskipped⟩ := hmade.keys_eq_filter htree hisName hkept
  rw [← hname] at hcomes
  refine ⟨hwritten, hskipped, ?_, ?_, ?_⟩
  · obtain ⟨planned, hplan, hpaths⟩ := exists_plan g kind r.name
    refine ⟨planned, hplan, ?_⟩
    intro e he
    obtain ⟨key, hkey, hkeyName, octets, ⟨t, place, content, -, hplace, hpath, -⟩, -⟩ := hcomes e he
    rw [hkeyName, hpath]
    exact hpaths key hkey place hplace
  · intro hdistinct hmanifest
    refine ⟨context, hcontext, fun e he => ?_⟩
    -- places that differ at the end differed when the artifacts were made
    have hdistinct' : r.written.Pairwise fun a b => ¬ mid.SamePlace a.2 b.2 := by
      refine hdistinct.imp fun hne hsame => hne ?_
      obtain ⟨l, hl, hl'⟩ := hsame
      exact ⟨l, hgrows.locate hl, hgrows.locate hl'⟩
    obtain ⟨key, hkey, hkeyName, octets, hcomesTo, hthere⟩ := hcomes e he
    refine ⟨key, hkey, hkeyName, octets, hcomesTo, hgrows.readFile (hthere hdistinct') ?_⟩
    rintro q rfl ⟨l, hl, hl'⟩
    exact hmanifest e he ⟨l, hl', hl⟩
  · intro l octets hne hmanifest
    let paths : Path → Prop := fun q => (∃ e ∈ r.written, e.2 = q) ∨ q = g.settings.manifestPath
    have hartifacts : GrowsAt paths start mid := hmade.growsAt.mono fun q => .inl
    have hpackages : GrowsAt paths mid s' := hgrows.mono fun q => .inr
    have hall := trans_of _ (hprint.growsAt paths) (trans_of _ hartifacts hpackages)
    refine hall.2.file_iff ?_
    rintro ⟨q, ⟨e, he, rfl⟩ | rfl, hl⟩
    · exact hne e he hl
    · exact hmanifest hl

/-- Settings of a project below the root, with templates beside it. -/
def sampleSettings : Settings where
  projectRoot := ⟨.root, ["project"]⟩
  componentDir := "parts"
  apiDir := "api"
  templatesDir := ⟨.root, ["templates"]⟩
  delimiter := "$&"
  fileExtension := ".js"
  manifestName := "package.json"
  installCommand := ["npm", "install"]
  install := false

/-- A session with the template of one page component, but of no data route, and with a file where
that component goes. -/
def sampleSession : Session :=
  .start ⟨[
      (["project"], .dir),
      (["project", "parts"], .dir),
      (["project", "parts", "Pump.js"], .file [0x6f, 0x6c, 0x64]),
      (["templates"], .dir),
      (["templates", "state-component.js"],
        .file [0x3c, 0x24, 0x26, 0x75, 0x6e, 0x69, 0x74, 0x24, 0x26, 0x3e])]⟩
    ["project"] ⟨.root, ["templates"]⟩ []

/-- A map of values that describes a component. -/
def sampleEntries : Entries := [(.text "componentName", .text "Pump"), (.text "unit", .text "bar")]

/-- The component that the map describes. -/
def sampleConfig : ComponentConfig where
  name := "Pump"
  topic := []
  label := "Pump"
  unit := "bar"
  icon := "Activity"
  pollingInterval := 2000
  setpoint := none
  maxDeviation := none
  schema := .null
  extra := []

theorem ofEntries_sampleEntries : ComponentConfig.ofEntries sampleEntries = .ok sampleConfig := rfl

/-- Where the page component of that map goes. -/
def samplePath : Path := ⟨.root, ["project", "parts", "Pump.js"]⟩

/-- The data route is skipped, and the page component is written over the old file. -/
theorem generate_report_of_state :
    sampleSession.tree.Consistent ∧
      ∃ config, ComponentConfig.ofEntries sampleEntries = .ok config ∧
        ∃ r g' s', (generate .state (some config)).outcome (.new sampleSettings) sampleSession
            = (.ok r, g', s') ∧
          r.skipped = [("api" : Text)] ∧
          r.written = [(("component" : Text), samplePath)] ∧
          Tells (.new sampleSettings) .state (some config) sampleSession r s' := by
  have htree : sampleSession.tree.Consistent := by decide
  have hreport : ((generate .state (some sampleConfig)).outcome (.new sampleSettings)
      sampleSession).1.toOption.map (fun r => (r.skipped, r.written))
      = some ([("api" : Text)], [(("component" : Text), samplePath)]) := by
    decide +kernel
  refine ⟨htree, sampleConfig, ofEntries_sampleEntries, ?_⟩
  rcases hrun : (generate .state (some sampleConfig)).outcome (.new sampleSettings) sampleSession
    with ⟨e | r, g', s'⟩
  · simp [hrun, Except.toOption] at hreport
  · obtain ⟨hskipped, hwritten⟩ : r.skipped = [("api" : Text)] ∧
        r.written = [(("component" : Text), samplePath)] := by
      simpa [hrun, Except.toOption] using hreport
    refine ⟨r, g', s', rfl, hskipped, hwritten, generate_report ?_ htree hrun⟩
    rintro c ⟨⟩
    exact ⟨sampleEntries, ofEntries_sampleEntries⟩

end DashboardKit.Generator
