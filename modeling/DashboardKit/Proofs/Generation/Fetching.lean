import DashboardKit.Proofs.Component.Endpoint
import DashboardKit.Proofs.Component.Usable
import DashboardKit.Proofs.Generation.Reports
import DashboardKit.Proofs.Template.Calls
import DashboardKit.Proofs.Template.Separating

/-!
# Where page components fetch from

The data of a page component comes from its route.  The address that it is fetched from is written
into the packaged templates but for the name, whereas the route is served where the directory of
routes says.

Main statement: `fetched_address_served_iff`, which addresses a rendered page component fetches from
and for which directories these are the addresses that the route is served under.
-/

set_option autoImplicit false

namespace DashboardKit

open Template

variable {kind : ComponentKind} {context : Entries} {c : ComponentConfig} {l : Layout}

/-! ## Calls in rendered page components -/

namespace Template

/-- The packaged page component of a kind. -/
def pageComponent (kind : ComponentKind) : Text :=
  Text.ofChars (Packaged.text kind .component)

/-- What is rendered of a template calls where the template does, each time with this address. -/
structure CallsWith (d : Text) (context : Entries) (template content address : Text) : Prop where
  calls : ∃ before behind, template = before ++ (fetchWord ++ behind)
  each : ∀ before behind, template = before ++ (fetchWord ++ behind) →
    ∃ a b, render d context before = .ok a ∧ content = a ++ (fetchWord ++ b) ∧ Quotes address b

theorem standardDelimiter_ne_nil : Settings.standardDelimiter ≠ [] := by decide

/-- The delimiter begins as no identifier goes on. -/
theorem standardDelimiter_stops :
    ∃ q ds, Settings.standardDelimiter = q :: ds ∧ inIdentifier q = false :=
  ⟨.scalar '$', [.scalar '&'], rfl, rfl⟩

theorem fetchWord_literal : ∀ p ∈ fetchWord, p ∉ Settings.standardDelimiter := by decide

/-- A call begins no placeholder and stands inside of none. -/
theorem apart_fetchWord (behind : Text) :
    Apart Settings.standardDelimiter (fetchWord ++ behind) :=
  apart_of_word standardDelimiter_ne_nil fetchWord_literal (by decide) behind

/-- What stands around the name in a quoted address is literal text. -/
theorem literal_of_mem_addressMarks {m : Text × Text} (hm : m ∈ addressMarks)
    (kind : ComponentKind) :
    (∀ p ∈ m.1 ++ ("/api/microlab/" : Text), p ∉ Settings.standardDelimiter) ∧
      ∀ p ∈ routeEnd kind ++ m.2, p ∉ Settings.standardDelimiter := by
  have hfront : ∀ m ∈ addressMarks, ∀ p ∈ m.1 ++ ("/api/microlab/" : Text),
      p ∉ Settings.standardDelimiter := by decide
  have hback : ∀ m ∈ addressMarks, ∀ p ∈ routeEnd kind ++ m.2, p ∉ Settings.standardDelimiter := by
    cases kind <;> decide
  exact ⟨hfront m hm, hback m hm⟩

/-- An address with the placeholder for the name becomes the address with the name. -/
theorem quotes_of_render {name behind content : Text}
    (hname : context.get? "componentApi" = some (.text name))
    (hbehind : Quotes (fetchAddress kind "$&componentApi$&") behind)
    (hcontent : render Settings.standardDelimiter context behind = .ok content) :
    Quotes (fetchAddress kind name) content := by
  obtain ⟨m, hm, rest, rfl⟩ := hbehind
  obtain ⟨hfront, hback⟩ := literal_of_mem_addressMarks hm kind
  have hsource : m.1 ++ fetchAddress kind "$&componentApi$&" ++ m.2 ++ rest =
      m.1 ++ ("/api/microlab/" : Text) ++ (Settings.standardDelimiter ++ ("componentApi" : Text)
        ++ Settings.standardDelimiter ++ (routeEnd kind ++ m.2 ++ rest)) := by
    have hplaceholder : ("$&componentApi$&" : Text) =
        Settings.standardDelimiter ++ ("componentApi" : Text) ++ Settings.standardDelimiter := rfl
    rw [hplaceholder, fetchAddress]
    simp only [List.append_assoc]
  have hid : IsIdentifier "componentApi" := by decide
  rw [hsource, render_placeholder_between standardDelimiter_stops hid hfront hback
    (textIn_of_text hname), map_eq_ok] at hcontent
  obtain ⟨x, -, rfl⟩ := hcontent
  refine ⟨m, hm, x, ?_⟩
  simp only [fetchAddress, List.append_assoc]

/-- Where a template calls, what is rendered of it calls with the name in the address. -/
theorem callsWith_of_fetchesOnly {name template content : Text}
    (hname : context.get? "componentApi" = some (.text name))
    (htemplate : FetchesOnly (fetchAddress kind "$&componentApi$&") template)
    (hcontent : render Settings.standardDelimiter context template = .ok content) :
    CallsWith Settings.standardDelimiter context template content (fetchAddress kind name) := by
  obtain ⟨hcalls, heach⟩ := htemplate
  constructor
  · obtain ⟨behind, hbehind⟩ := List.exists_mem_of_ne_nil _ hcalls
    obtain ⟨before, hsplit⟩ := mem_behindEach.1 hbehind
    exact ⟨before, behind, hsplit⟩
  · intro before behind hsplit
    have hquotes := heach behind (mem_behindEach.2 ⟨before, hsplit⟩)
    rw [hsplit] at hcontent
    obtain ⟨a, y, ha, hy, rfl⟩ :=
      render_append_eq_ok standardDelimiter_ne_nil (apart_fetchWord behind) hcontent
    -- the word itself is literal text
    rw [render_literal_append standardDelimiter_ne_nil context fetchWord_literal, map_eq_ok] at hy
    obtain ⟨b, hb, rfl⟩ := hy
    exact ⟨a, b, ha, rfl, quotes_of_render hname hquotes hb⟩

end Template

/-! ## The context of a config -/

namespace Context

/-- What stands for the name of the route. -/
theorem get?_componentApi (h : build kind (some c) = .ok context) :
    context.get? "componentApi" = some (.text (Text.lower (Layout.effectiveName kind c.name))) := by
  obtain ⟨extra, schema, -, -, rfl⟩ := ComponentConfig.build_eq_ok_iff.1 h
  have hnodup : ((standard (Layout.effectiveName kind c.name) c schema).map (·.1)).Nodup :=
    nodup_standardKeys
  have hmem : (("componentApi" : Text),
        Value.text (Text.lower (Layout.effectiveName kind c.name))) ∈
      standard (Layout.effectiveName kind c.name) c schema := by
    simp [standard, ofName]
  exact get?_overlay_of_mem hnodup hmem

end Context

/-- With a usable config every packaged page component is rendered. -/
theorem exists_pageComponent (hname : ComponentConfig.isName c.name = true) (h : c.Usable)
    (kind : ComponentKind) :
    ∃ context content, Context.build kind (some c) = .ok context ∧
      render Settings.standardDelimiter context (pageComponent kind) = .ok content := by
  obtain ⟨context, hcontext, hrender⟩ := (ComponentConfig.renders_iff_usable hname).2 h
  obtain ⟨content, octets, hcontent, -⟩ :=
    hrender _ (pageComponent kind) standardDelimiter_ne_nil (Text.whole_ofChars _)
  exact ⟨context, content, hcontext, hcontent⟩

/-! ## Addresses -/

/-- Texts without the separator can be told from what they are joined to. -/
theorem Text.join_inj {sep : CodePoint} {ps qs : List Text} (hps : ps ≠ []) (hqs : qs ≠ [])
    (hp : ∀ s ∈ ps, sep ∉ s) (hq : ∀ s ∈ qs, sep ∉ s) (h : join [sep] ps = join [sep] qs) :
    ps = qs := by
  rw [← splitOn_join hps hp, h, splitOn_join hqs hq]

/-- What stands behind the last `app` is among the segments. -/
theorem BehindLastApp.subset {segments after : List Text} (h : BehindLastApp segments after) :
    after ⊆ segments := by
  cases h with
  | found happ =>
    intro s hs
    exact List.mem_append_right _ (List.mem_cons_of_mem _ hs)
  | absent happ => exact List.Subset.refl _

namespace Layout

/-- The file of a route lies in the directory of the route. -/
theorem place_api (hkind : kind ≠ .dashtable) (l : Layout) (name : Text) :
    l.place kind .api name
      = .ok ((l.routeDir kind name).joinText (("route" : Text) ++ l.extension)) := by
  cases kind with
  | dashtable => exact absurd rfl hkind
  | _ => rfl

theorem slash_not_mem_routeSegments {name : Text} (hname : ComponentConfig.isName name = true) :
    ∀ s ∈ routeSegments kind name, Path.slash ∉ s := by
  have hlower : Path.slash ∉ Text.lower name :=
    (proper_of_isName (ComponentConfig.isName_lower hname)).1.2.2
  intro s hs
  rcases List.mem_cons.1 hs with rfl | hs
  · exact hlower
  · split at hs
    · obtain rfl := List.mem_singleton.1 hs
      decide
    · exact absurd hs List.not_mem_nil

/-- The address in the templates is made of segments, as the one that a route is served under. -/
theorem fetchAddress_eq_join (kind : ComponentKind) (name : Text) :
    fetchAddress kind (Text.lower name) =
      ("/" : Text) ++ Text.join [Path.slash] ([("api" : Text), "microlab"]
        ++ routeSegments kind name) := by
  have hfront : ("/api/microlab/" : Text) =
      ("/" : Text) ++ ("api" ++ [Path.slash] ++ ("microlab" ++ [Path.slash])) := by decide
  have hend : ("/statistics" : Text) = [Path.slash] ++ "statistics" := by decide
  rw [fetchAddress, routeEnd, hfront, hend]
  by_cases hstats : kind = .stats
  · simp [routeSegments, hstats, Text.join]
  · simp [routeSegments, hstats, Text.join]

/-- A route is served under the address in the templates exactly if `api/microlab` stands behind the
last `app` of its directory. -/
theorem servedAt_fetchAddress {name : Text} (hname : ComponentConfig.isName name = true)
    (hdir : ∀ s ∈ l.apiDir.segments, Path.slash ∉ s) :
    ServedAt l kind name (fetchAddress kind (Text.lower name)) ↔
      BehindLastApp l.apiDir.segments ["api", "microlab"] := by
  have hroute : ∀ s ∈ routeSegments kind name, Path.slash ∉ s := slash_not_mem_routeSegments hname
  rw [fetchAddress_eq_join]
  constructor
  · rintro ⟨after, hafter, haddress⟩
    rw [List.append_cancel_left_eq] at haddress
    have hwritten : ∀ s ∈ [("api" : Text), "microlab"], Path.slash ∉ s := by decide
    have hjoined : [("api" : Text), "microlab"] ++ routeSegments kind name
        = after ++ routeSegments kind name := by
      apply Text.join_inj _ _ _ _ haddress
      · simp
      · simp [routeSegments]
      · exact List.forall_mem_append.2 ⟨hwritten, hroute⟩
      · exact List.forall_mem_append.2 ⟨fun s hs => hdir s (hafter.subset hs), hroute⟩
    rwa [List.append_cancel_right hjoined]
  · intro hbehind
    exact ⟨_, hbehind, rfl⟩

end Layout

/-! ## What is fetched and what is served -/

namespace Generator

open Layout

/-- A page component of an accepted config, rendered from its packaged template, fetches from one
address: the fixed one with the name of the component.  The file of its route goes to the directory
of routes, and the address is the one that the route is served under exactly if `api/microlab`
stands behind the last `app` of this directory. -/
theorem fetched_address_served_iff {st : Settings} {raw : Entries}
    (hdir : (Path.ofText st.apiDir).isAbsolute = false)
    (hconfig : ComponentConfig.ofEntries raw = .ok c) (hkind : kind ≠ .dashtable) :
    (c.Usable → ∃ context content, Context.build kind (some c) = .ok context ∧
      render Settings.standardDelimiter context (pageComponent kind) = .ok content) ∧
    (∀ context content, Context.build kind (some c) = .ok context →
      render Settings.standardDelimiter context (pageComponent kind) = .ok content →
      CallsWith Settings.standardDelimiter context (pageComponent kind) content
        (fetchAddress kind (Text.lower c.name))) ∧
    (st.layout.place kind .api c.name
        = .ok ((st.layout.routeDir kind c.name).joinText (("route" : Text) ++ st.fileExtension)) ∧
      (st.layout.routeDir kind c.name).parts
        = (Path.ofText st.apiDir).segments ++ routeSegments kind c.name) ∧
    (ServedAt st.layout kind c.name (fetchAddress kind (Text.lower c.name)) ↔
      BehindLastApp (Path.ofText st.apiDir).segments ["api", "microlab"]) := by
  have hname := (ComponentConfig.describes_of_ofEntries hconfig).isName
  refine ⟨?_, ?_, ⟨place_api hkind st.layout c.name, parts_routeDir hdir hname kind⟩, ?_⟩
  · intro husable
    exact exists_pageComponent hname husable kind
  · intro context content hcontext hcontent
    have hroute := Context.get?_componentApi hcontext
    rw [effectiveName_of_ne hkind] at hroute
    exact callsWith_of_fetchesOnly hroute (fetchesOnly_component hkind) hcontent
  · apply servedAt_fetchAddress hname
    intro s hs
    exact (Path.ofText_segments_proper hs).2.2

/-- The config of the sample component can be put into templates. -/
theorem usable_sampleConfig : sampleConfig.Usable where
  schema := .atom trivial
  structures := by
    intro e he
    exact absurd he List.not_mem_nil
  topic := Text.whole_nil
  label := Text.whole_ofString "Pump"
  unit := Text.whole_ofString "bar"
  icon := Text.whole_ofString "Activity"
  pollingInterval := by decide +kernel
  setpoint := nofun
  maxDeviation := nofun
  extra := nofun

/-- The sample project with its data routes in another directory. -/
def settingsWithRoutesIn (dir : Text) : Settings := { sampleSettings with apiDir := dir }

/-- In the standard directory the statistics of a pump are fetched from where they are served. -/
theorem fetched_address_served_of_pump :
    (Path.ofText (settingsWithRoutesIn standardApiDir).apiDir).isAbsolute = false ∧
      ComponentConfig.ofEntries sampleEntries = .ok sampleConfig ∧
      ∃ context content, Context.build .stats (some sampleConfig) = .ok context ∧
        render Settings.standardDelimiter context (pageComponent .stats) = .ok content ∧
        CallsWith Settings.standardDelimiter context (pageComponent .stats) content
          "/api/microlab/pump/statistics" ∧
        ServedAt (settingsWithRoutesIn standardApiDir).layout .stats sampleConfig.name
          "/api/microlab/pump/statistics" := by
  have hdir : (Path.ofText (settingsWithRoutesIn standardApiDir).apiDir).isAbsolute = false := by
    decide
  have hstats : ComponentKind.stats ≠ .dashtable := by decide
  obtain ⟨hrenders, hcalls, -, hserved⟩ :=
    fetched_address_served_iff hdir ofEntries_sampleEntries hstats
  have haddress : fetchAddress .stats (Text.lower sampleConfig.name)
      = "/api/microlab/pump/statistics" := by decide
  rw [haddress] at hcalls hserved
  obtain ⟨context, content, hcontext, hcontent⟩ := hrenders usable_sampleConfig
  refine ⟨hdir, ofEntries_sampleEntries, context, content, hcontext, hcontent,
    hcalls context content hcontext hcontent, hserved.2 ?_⟩
  rw [behindLastApp_iff]
  decide

/-- In another directory a pump is not fetched from where it is served. -/
theorem exists_fetched_address_not_served :
    ¬ ∀ (st : Settings) (raw : Entries) (c : ComponentConfig) (kind : ComponentKind)
      (context : Entries) (content : Text),
      (Path.ofText st.apiDir).isAbsolute = false → ComponentConfig.ofEntries raw = .ok c →
      kind ≠ .dashtable → Context.build kind (some c) = .ok context →
      render Settings.standardDelimiter context (pageComponent kind) = .ok content →
      ∃ before behind served a q b, pageComponent kind = before ++ (fetchWord ++ behind) ∧
        ServedAt st.layout kind c.name served ∧
        render Settings.standardDelimiter context before = .ok a ∧
        content = a ++ (fetchWord ++ q :: (served ++ b)) := by
  intro hall
  obtain ⟨context, content, hcontext, hcontent⟩ :=
    exists_pageComponent (by decide) usable_sampleConfig .state
  obtain ⟨before, behind, served, a, q, b, hsplit, hserved, ha, happend⟩ :=
    hall (settingsWithRoutesIn "src/app/api/v1") sampleEntries sampleConfig .state context content
      (by decide) ofEntries_sampleEntries (by decide) hcontext hcontent
  -- what follows the quote is the address of the template
  have hcalls := callsWith_of_fetchesOnly (Context.get?_componentApi hcontext)
    (fetchesOnly_component (by decide)) hcontent
  obtain ⟨a', b', ha', happend', m, hm, rest, rfl⟩ := hcalls.each before behind hsplit
  obtain rfl : a = a' := Except.ok.inj (ha.symm.trans ha')
  have hquoted : q :: (served ++ b)
      = m.1 ++ fetchAddress .state (Text.lower (effectiveName .state sampleConfig.name)) ++ m.2
        ++ rest := by
    simpa only [List.append_cancel_left_eq] using happend.symm.trans happend'
  obtain ⟨after, hafter, haddress⟩ := hserved
  obtain rfl : after = ["api", "v1"] := (behindLastApp_iff.1 hafter).trans (by decide)
  have hversion : (q :: (served ++ b))[6]? = some (.scalar 'v') := by
    rw [haddress]
    rfl
  have hfixed : ∀ m ∈ addressMarks, ∀ rest : Text,
      (m.1 ++ fetchAddress .state (Text.lower (effectiveName .state sampleConfig.name)) ++ m.2
        ++ rest)[6]? = some (.scalar 'm') := by
    intro m hm rest
    rcases List.mem_cons.1 hm with rfl | hm
    · rfl
    · obtain rfl := List.mem_singleton.1 hm
      rfl
  rw [hquoted, hfixed m hm rest] at hversion
  exact absurd hversion (by decide)

end Generator

end DashboardKit
