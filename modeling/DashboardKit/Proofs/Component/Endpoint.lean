import DashboardKit.Proofs.Component.Accepted
import DashboardKit.Proofs.Component.Places

/-!
# Where data routes are served

A data route is served under the directory that its file lies in, from behind the last segment that
is called `app`.  The address is found by looking for that segment in the whole path, the name of
the component included; it is the right one unless the component is itself called `app`.

Main statement: `servedAt_endpoint_iff`.
-/

set_option autoImplicit false

namespace DashboardKit

variable {segments after : List Text} {kind : ComponentKind} {l : Layout} {raw : Entries}
  {c : ComponentConfig}

/-! ## Joined texts -/

theorem Text.le_length_join_cons (sep s : Text) (ts : List Text) :
    s.length + (join sep ts).length ≤ (join sep (s :: ts)).length := by
  cases ts with
  | nil => simp [join]
  | cons t ts =>
    simp only [join, List.length_append]
    omega

/-- Texts in front make a joined text no shorter. -/
theorem Text.le_length_join_append (sep : Text) (front ts : List Text) :
    (join sep ts).length ≤ (join sep (front ++ ts)).length := by
  induction front with
  | nil => exact Nat.le_refl _
  | cons s front ih =>
    have hcons := le_length_join_cons sep s (front ++ ts)
    rw [List.cons_append]
    omega

/-! ## Behind the last segment of a name -/

/-- What stands behind the last `app` among segments: all of them if there is none. -/
inductive BehindLastApp : List Text → List Text → Prop where
  | found {before after : List Text} :
      ("app" : Text) ∉ after → BehindLastApp (before ++ ("app" : Text) :: after) after
  | absent {segments : List Text} : ("app" : Text) ∉ segments → BehindLastApp segments segments

namespace Layout

theorem afterLastApp_of_not_mem (h : ("app" : Text) ∉ segments) :
    afterLastApp segments = segments := by
  cases segments with
  | nil => rfl
  | cons s rest =>
    rw [List.mem_cons, not_or] at h
    rw [afterLastApp, if_neg (by simpa using h.2), if_neg (Ne.symm h.1)]

/-- Segments in front do not matter if an `app` follows. -/
theorem afterLastApp_append (before : List Text) (h : ("app" : Text) ∈ segments) :
    afterLastApp (before ++ segments) = afterLastApp segments := by
  induction before with
  | nil => rfl
  | cons s before ih =>
    rw [List.cons_append, afterLastApp, if_pos (by simp [h]), ih]

theorem afterLastApp_cons_app (h : ("app" : Text) ∉ after) :
    afterLastApp (("app" : Text) :: after) = after := by
  rw [afterLastApp, if_neg (by simpa using h), if_pos rfl]

theorem behindLastApp_afterLastApp (segments : List Text) :
    BehindLastApp segments (afterLastApp segments) := by
  by_cases h : ("app" : Text) ∈ segments
  · induction segments with
    | nil => exact absurd h List.not_mem_nil
    | cons s rest ih =>
      by_cases hrest : ("app" : Text) ∈ rest
      · rw [← List.singleton_append, afterLastApp_append _ hrest]
        have hbehind := ih hrest
        generalize afterLastApp rest = after at hbehind
        cases hbehind with
        | found hafter =>
          rw [← List.append_assoc]
          exact .found hafter
        | absent hnone => exact absurd hrest hnone
      · obtain rfl : ("app" : Text) = s := (List.mem_cons.1 h).resolve_right hrest
        rw [afterLastApp_cons_app hrest]
        exact @BehindLastApp.found [] rest hrest
  · rw [afterLastApp_of_not_mem h]
    exact .absent h

/-- There is one list of segments behind the last `app`, and it is the one that is computed. -/
theorem behindLastApp_iff : BehindLastApp segments after ↔ after = afterLastApp segments := by
  constructor
  · rintro (hafter | hnone)
    · rw [afterLastApp_append _ List.mem_cons_self, afterLastApp_cons_app hafter]
    · rw [afterLastApp_of_not_mem hnone]
  · rintro rfl
    exact behindLastApp_afterLastApp segments

/-- Segments behind which no `app` follows keep what was behind the last `app`. -/
theorem afterLastApp_append_of_not_mem {behind : List Text} (h : ("app" : Text) ∉ behind) :
    afterLastApp (segments ++ behind) = afterLastApp segments ++ behind := by
  refine (behindLastApp_iff.1 ?_).symm
  have hsegments := behindLastApp_afterLastApp segments
  generalize afterLastApp segments = after at hsegments
  cases hsegments with
  | found hafter =>
    rw [List.append_assoc, List.cons_append]
    exact .found fun hmem => (List.mem_append.1 hmem).elim hafter h
  | absent hnone => exact .absent fun hmem => (List.mem_append.1 hmem).elim hnone h

/-! ## Addresses -/

/-- The segments that a component adds to the directory of data routes. -/
def routeSegments (kind : ComponentKind) (name : Text) : List Text :=
  Text.lower name :: (if kind = .stats then ["statistics"] else [])

/-- The address under which a data route is served: what stands behind the last `app` of the
directory, and the segments of the component. -/
def ServedAt (l : Layout) (kind : ComponentKind) (name address : Text) : Prop :=
  ∃ after, BehindLastApp l.apiDir.segments after ∧
    address = ("/" : Text) ++ Text.join [Path.slash] (after ++ routeSegments kind name)

/-- The directory of a data route is that of all routes and the segments of the component. -/
theorem parts_routeDir (hdir : l.apiDir.isAbsolute = false) {name : Text}
    (hname : ComponentConfig.isName name = true) (kind : ComponentKind) :
    (l.routeDir kind name).parts = l.apiDir.segments ++ routeSegments kind name := by
  have hproper {t : Text} (ht : ComponentConfig.isName t = true) : Path.ProperSegment t :=
    (proper_of_isName ht).1
  have hlower := Path.ofText_of_proper (hproper (ComponentConfig.isName_lower hname))
  have hstats : Path.ofText "statistics" = ⟨.here, ["statistics"]⟩ :=
    Path.ofText_of_proper (hproper (by decide))
  have hhere : l.apiDir.anchor = .here := by simpa [Path.isAbsolute] using hdir
  cases kind <;>
    simp [routeDir, routeSegments, Path.joinText, hlower, hstats, Path.join, Path.parts, hhere]

theorem app_mem_routeSegments {name : Text} :
    ("app" : Text) ∈ routeSegments kind name ↔ Text.lower name = "app" := by
  have hstats : ("app" : Text) ∉ (if kind = .stats then ["statistics"] else [] : List Text) := by
    split <;> decide
  rw [routeSegments, List.mem_cons, or_iff_left hstats, eq_comm]

/-- What the endpoint of a component that is called `app` comes to. -/
theorem endpoint_of_lower_eq_app (hdir : l.apiDir.isAbsolute = false) {name : Text}
    (hname : ComponentConfig.isName name = true) (hlower : Text.lower name = "app") :
    l.endpoint kind name
      = ("/" : Text) ++ Text.join [Path.slash] (routeSegments kind name).tail := by
  have hmem : ("app" : Text) ∈ routeSegments kind name := app_mem_routeSegments.2 hlower
  have hbehind : ("app" : Text) ∉ (routeSegments kind name).tail := by
    rw [routeSegments, List.tail_cons]
    split <;> decide
  have hafter : afterLastApp (routeSegments kind name) = (routeSegments kind name).tail := by
    have hcons := afterLastApp_cons_app hbehind
    rw [← hlower] at hcons
    exact hcons
  rw [endpoint, parts_routeDir hdir hname, afterLastApp_append _ hmem, hafter]

/-- The address of a data route is the one it is served under, unless the component is called `app`
but for the case of its letters.  Then neither its directory nor its name is left in the address. -/
theorem servedAt_endpoint_iff (hdir : l.apiDir.isAbsolute = false)
    (hconfig : ComponentConfig.ofEntries raw = .ok c) (kind : ComponentKind) :
    (ServedAt l kind c.name (l.endpoint kind c.name) ↔ Text.lower c.name ≠ "app") ∧
      (Text.lower c.name = "app" →
        l.endpoint kind c.name
          = ("/" : Text) ++ Text.join [Path.slash] (routeSegments kind c.name).tail) := by
  have hname := (ComponentConfig.describes_of_ofEntries hconfig).isName
  refine ⟨⟨?_, ?_⟩, endpoint_of_lower_eq_app hdir hname⟩
  · rintro ⟨after, -, haddress⟩ hlower
    -- the address that is right names the component and is therefore longer
    rw [endpoint_of_lower_eq_app hdir hname hlower, List.append_cancel_left_eq] at haddress
    have hfront := Text.le_length_join_append [Path.slash] after (routeSegments kind c.name)
    have hnamed := Text.le_length_join_cons [Path.slash] (Text.lower c.name)
      (routeSegments kind c.name).tail
    have hpositive : 0 < (Text.lower c.name).length := by
      rw [hlower]
      decide
    rw [← haddress] at hfront
    simp only [routeSegments, List.tail_cons] at hfront hnamed
    omega
  · intro hlower
    have hnot : ("app" : Text) ∉ routeSegments kind c.name := fun hmem =>
      hlower (app_mem_routeSegments.1 hmem)
    refine ⟨afterLastApp l.apiDir.segments, behindLastApp_iff.2 rfl, ?_⟩
    rw [endpoint, parts_routeDir hdir hname, afterLastApp_append_of_not_mem hnot]

/-- The layout of a project whose routes lie in a directory below two that are called `app`. -/
def nestedLayout : Layout := ⟨Path.ofText "parts", Path.ofText "app/src/app/api/v1", ".js"⟩

/-- The statistics of a boiler are served behind the second of them. -/
theorem servedAt_endpoint_of_boiler :
    nestedLayout.apiDir.isAbsolute = false ∧
      ∃ c, ComponentConfig.ofEntries [(.text "componentName", .text "Boiler")] = .ok c ∧
        nestedLayout.endpoint .stats c.name = "/api/v1/boiler/statistics" ∧
        ServedAt nestedLayout .stats c.name (nestedLayout.endpoint .stats c.name) := by
  have hdir : nestedLayout.apiDir.isAbsolute = false := by decide
  obtain ⟨c, hconfig, hname⟩ : ∃ c, ComponentConfig.ofEntries
      [(.text "componentName", .text "Boiler")] = .ok c ∧ c.name = "Boiler" := ⟨_, rfl, rfl⟩
  refine ⟨hdir, c, hconfig, ?_, (servedAt_endpoint_iff hdir hconfig .stats).1.2 ?_⟩
  · rw [hname]
    decide
  · rw [hname]
    decide

/-- A component that is called `App` is not served under the address that is computed for it. -/
theorem exists_endpoint_not_served :
    ¬ ∀ (l : Layout) (raw : Entries) (c : ComponentConfig) (kind : ComponentKind),
      l.apiDir.isAbsolute = false → ComponentConfig.ofEntries raw = .ok c → kind ≠ .dashtable →
        ServedAt l kind c.name (l.endpoint kind c.name) := by
  intro hall
  obtain ⟨c, hconfig, hname⟩ : ∃ c, ComponentConfig.ofEntries
      [(.text "componentName", .text "App")] = .ok c ∧ c.name = "App" := ⟨_, rfl, rfl⟩
  obtain ⟨after, hafter, haddress⟩ :=
    hall nestedLayout _ c .state (by decide) hconfig (by decide)
  have hendpoint : nestedLayout.endpoint .state "App" = "/" := by decide
  have hbehind : after = [("api" : Text), "v1"] := (behindLastApp_iff.1 hafter).trans (by decide)
  rw [hname, hendpoint, hbehind] at haddress
  exact absurd haddress (by decide)

end Layout

end DashboardKit
