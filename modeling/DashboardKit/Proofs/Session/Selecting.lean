import DashboardKit.Proofs.Console.Markup
import DashboardKit.Proofs.Session.Answering

/-!
# What comes of asking for a kind and a config file

The questions take the first answer that names a kind and, unless it is the layout container, the
first answer behind it that names a usable config file.  Each answer before is refused with a line
that says why, and asked for again.

Looking for a file can fail, for example where a path begins with the home of a user who does not
exist.  Then the answer is neither taken nor asked for again, but the failure ends the questions.

Main statement: `outcome_selection_iff`.
-/

set_option autoImplicit false

namespace DashboardKit.Prompt

open DashboardKit.Action Session

variable {s s' : Session} {t : Text} {kind : ComponentKind}

/-! ## The question for a kind -/

/-- A text chooses a kind: by its name, or by its number in the list that is shown. -/
def Chooses (t : Text) (kind : ComponentKind) : Prop :=
  t = Text.ofString kind.name ∨
    ∃ i : Nat, ComponentKind.all[i]? = some kind ∧ t = Text.ofInt (i + 1)

/-- What an answer to the question for a kind comes to. -/
inductive KindVerdict (t : Text) : Verdict ComponentKind → Prop where
  | taken {kind : ComponentKind} (h : Chooses t kind) : KindVerdict t (.taken kind)
  | refused (h : ∀ kind, ¬ Chooses t kind) :
      KindVerdict t (.refused "Please select one of the available options")

/-- The choices are the names and the numbers. -/
theorem mem_choices_iff : (t, kind) ∈ choices ↔ Chooses t kind := by
  unfold choices Chooses
  rw [List.mem_append, or_comm]
  refine or_congr ?_ ?_
  · simp only [List.mem_map, Prod.mk.injEq]
    constructor
    · rintro ⟨k, -, rfl, rfl⟩
      rfl
    · rintro rfl
      exact ⟨kind, ComponentKind.mem_all kind, rfl, rfl⟩
  · simp only [List.mem_map, Prod.exists, List.mem_zipIdx_iff_getElem?, Prod.mk.injEq]
    constructor
    · rintro ⟨k, i, hi, rfl, rfl⟩
      exact ⟨i, hi, rfl⟩
    · rintro ⟨i, hi, rfl⟩
      exact ⟨kind, i, hi, rfl, rfl⟩

/-- A choice is found by what it is written as. -/
theorem lookup_choices_iff : choices.lookup t = some kind ↔ Chooses t kind := by
  rw [← mem_choices_iff]
  constructor
  · intro h
    obtain ⟨front, behind, hsplit, -⟩ := List.lookup_eq_some_iff.1 h
    rw [hsplit]
    exact List.mem_append_right front List.mem_cons_self
  · have hall : ∀ p ∈ choices, choices.lookup p.1 = some p.2 := by decide +kernel
    exact hall (t, kind)

/-- The judgement of an answer to the question for a kind. -/
def judgeKind (t : Text) : Action (Except Text ComponentKind) :=
  pure (match choices.lookup t with
    | some kind => .ok kind
    | none => .error "Please select one of the available options")

theorem askKind_eq (bound : Nat) :
    askKind bound = askUntil "Component type" judgeKind bound := by
  induction bound with
  | zero => rfl
  | succ bound ih =>
    unfold askKind askUntil judgeKind
    refine bind_congr fun answer => ?_
    rw [pure_bind, ih]
    cases choices.lookup answer <;> rfl

theorem judges_judgeKind (s : Session) : Judges judgeKind KindVerdict s where
  looks t := looks_pure _
  comesTo t v hv := by
    unfold judgeKind
    rw [outcome_pure]
    cases hv with
    | taken h =>
      rw [lookup_choices_iff.2 h]
      exact .taken
    | refused h =>
      have hnone : choices.lookup t = none :=
        Option.eq_none_iff_forall_ne_some.2 fun kind hkind => h kind (lookup_choices_iff.1 hkind)
      rw [hnone]
      exact .refused (by decide +kernel)
  total t := by
    by_cases h : ∃ kind, Chooses t kind
    · obtain ⟨kind, hkind⟩ := h
      exact ⟨_, .taken hkind⟩
    · exact ⟨_, .refused (not_exists.1 h)⟩

/-- The line of the list of kinds for one of them. -/
def menuLine (entry : ComponentKind × Nat) : Text :=
  ("  " : Text) ++ Text.ofInt (entry.2 + 1) ++ (". " : Text) ++ Text.ofString entry.1.description

/-- The list of kinds that is shown before the question. -/
def menu : List Event :=
  .line "What type of component would you like to create?" ::
    ComponentKind.all.zipIdx.map fun entry => .line (menuLine entry)

/-- What comes of asking for a kind. -/
theorem outcome_componentKind_iff {r : Except Failure ComponentKind} :
    componentKind.outcome s = (r, s') ↔
      Asks "Component type" KindVerdict (s.showing menu) r s' := by
  have htitle : Markup.shown "[bold]What type of component would you like to create?[/bold]"
      = .ok "What type of component would you like to create?" := by decide +kernel
  have hlines : ∀ entry ∈ ComponentKind.all.zipIdx,
      Markup.shown (menuLine entry) = .ok (menuLine entry) := by decide +kernel
  have hmenu : componentKind.outcome s
      = (askKind (s.answers.length + 1)).outcome (s.showing menu) := by
    refine (outcome_bind_of_ok (outcome_printMarkup htitle s) _).trans ?_
    refine (outcome_bind_of_ok (outcome_forM_printMarkup hlines _) _).trans ?_
    rw [showing_showing]
    rfl
  rw [hmenu, askKind_eq]
  exact outcome_askUntil_iff (judges_judgeKind _) (Nat.lt_succ_self s.answers.length)

/-! ## The question for a config file -/

/-- What an answer to the question for a config file comes to: the check of its path decides. -/
inductive PathVerdict (s : Session) (t : Text) : Verdict Path → Prop where
  | taken (h : ((configPathProblem t).outcome s).1 = .ok none) :
      PathVerdict s t (.taken (Path.ofText t))
  | refused {problem : Text} (h : ((configPathProblem t).outcome s).1 = .ok (some problem)) :
      PathVerdict s t (.refused problem)
  | failed {f : Failure} (h : ((configPathProblem t).outcome s).1 = .error f) :
      PathVerdict s t (.failed f)

/-- The check fails exactly for answers that end as config files do and whose file cannot be looked
for. -/
theorem exists_failed_iff :
    (∃ f, PathVerdict s t (.failed f)) ↔
      configSuffixes.any (Text.endsWith (Text.lower t)) = true ∧
        ∃ f, ((expandHome (Path.ofText t) >>= resolve >>= isFile).outcome s).1 = .error f := by
  have hfailed : (∃ f, PathVerdict s t (.failed f)) ↔
      ∃ f, ((configPathProblem t).outcome s).1 = .error f := by
    refine exists_congr fun f => ⟨fun hv => ?_, .failed⟩
    cases hv with
    | failed h => exact h
  have hnil : configSuffixes.any (Text.endsWith (Text.lower [])) = false := by decide
  have hpure (problem : Option Text) (mid : Session) :
      ¬ ∃ f, ((pure problem : Action (Option Text)).outcome mid).1 = .error f := by
    rintro ⟨f, h⟩
    rw [outcome_pure] at h
    cases h
  rw [hfailed]
  unfold configPathProblem
  by_cases hends : configSuffixes.any (Text.endsWith (Text.lower t)) = true
  · have hne : t.isEmpty = false := by
      cases t with
      | nil => exact absurd hends (by rw [hnil]; exact Bool.false_ne_true)
      | cons p t => rfl
    rw [if_neg (by rw [hne]; exact Bool.false_ne_true), if_neg (by simp [hends]), ← bind_assoc,
      ← bind_assoc, and_iff_right hends]
    -- what is told of the file does not fail
    rw [outcome_bind]
    rcases (expandHome (Path.ofText t) >>= resolve >>= isFile).outcome s with ⟨f | found, mid⟩
    · exact iff_of_true ⟨f, rfl⟩ ⟨f, rfl⟩
    · have hnone : ¬ ∃ f, ((.ok found : Except Failure Bool), mid).1 = .error f := by
        rintro ⟨f, h⟩
        cases h
      cases found with
      | false => exact iff_of_false (hpure _ mid) hnone
      | true => exact iff_of_false (hpure _ mid) hnone
  · refine iff_of_false ?_ fun h => hends h.1
    split
    · exact hpure _ s
    · rw [if_pos (by simp [hends])]
      exact hpure _ s

/-- Checking a path only looks at files. -/
theorem looks_configPathProblem (t : Text) : (configPathProblem t).Looks := by
  unfold configPathProblem
  split
  · exact looks_pure _
  · split
    · exact looks_pure _
    · refine (looks_expandHome _).bind fun p => (looks_resolve p).bind fun path => ?_
      refine (looks_isFile path).bind fun found => ?_
      split <;> exact looks_pure _

/-- The wordings of what can be wrong with a path. -/
def pathProblems : List Text :=
  ["Config file path is required",
    ("Config file must be one of: " : Text) ++ Text.join ", " configSuffixes,
    "Config file does not exist"]

theorem gives_configPathProblem (t : Text) :
    (configPathProblem t).Gives fun problem => ∀ p ∈ problem, p ∈ pathProblems := by
  have hproblem {p : Text} (h : p ∈ pathProblems) :
      (pure (some p) : Action (Option Text)).Gives fun problem => ∀ p ∈ problem, p ∈ pathProblems :=
    gives_pure (by rintro p ⟨⟩; exact h)
  unfold configPathProblem
  split
  · exact hproblem (by simp [pathProblems])
  · split
    · exact hproblem (by simp [pathProblems])
    · refine gives_bind fun home => gives_bind fun path => gives_bind fun found => ?_
      split
      · exact gives_pure (by rintro p ⟨⟩)
      · exact hproblem (by simp [pathProblems])

/-- The judgement of an answer to the question for a config file. -/
def judgePath (t : Text) : Action (Except Text Path) := do
  match ← configPathProblem t with
  | none => return .ok (Path.ofText t)
  | some problem => return .error (("[red]" : Text) ++ problem ++ ("[/red]" : Text))

theorem askConfigPath_eq (bound : Nat) : askConfigPath bound
    = askUntil "Enter the path to your configuration file" judgePath bound := by
  induction bound with
  | zero => rfl
  | succ bound ih =>
    rw [askConfigPath, askUntil_succ, bind_assoc, ← ih]
    refine bind_congr fun answer => ?_
    rw [judgePath, bind_assoc]
    refine bind_congr fun problem => ?_
    cases problem <;> rw [pure_bind]

theorem judges_judgePath (s : Session) : Judges judgePath (PathVerdict s) s where
  looks t := (looks_configPathProblem t).bind fun problem => by
    cases problem <;> exact looks_pure _
  comesTo t v hv := by
    have hcheck : (configPathProblem t).outcome s = (((configPathProblem t).outcome s).1, s) :=
      looks_configPathProblem t s s (refl_of AsksTo s)
    unfold judgePath
    rw [outcome_bind, hcheck]
    cases hv with
    | taken h =>
      rw [h]
      exact .taken
    | refused h =>
      rw [h]
      refine .refused ?_
      have hshown : ∀ problem ∈ pathProblems,
          Markup.shown (("[red]" : Text) ++ problem ++ ("[/red]" : Text)) = .ok problem := by
        decide +kernel
      exact hshown _ (gives_configPathProblem t s _ _ (Prod.ext h rfl) _ rfl)
    | failed h =>
      rw [h]
      exact .failed
  total t := by
    rcases h : ((configPathProblem t).outcome s).1 with f | (_ | problem)
    · exact ⟨_, .failed h⟩
    · exact ⟨_, .taken h⟩
    · exact ⟨_, .refused h⟩

/-- What comes of asking for a config file. -/
theorem outcome_configPath_iff {r : Except Failure Path} :
    configPath.outcome s = (r, s') ↔
      Asks "Enter the path to your configuration file" (PathVerdict s) s r s' := by
  unfold configPath
  rw [outcome_bind_of_ok (outcome_get s), askConfigPath_eq]
  exact outcome_askUntil_iff (judges_judgePath s) (Nat.lt_succ_self s.answers.length)

/-- The verdict on a path does not depend on what was asked before. -/
theorem pathVerdict_eq {mid : Session} (h : AsksTo s mid) : PathVerdict mid = PathVerdict s := by
  have hcheck (t : Text) :
      ((configPathProblem t).outcome mid).1 = ((configPathProblem t).outcome s).1 := by
    rw [looks_configPathProblem t s mid h]
  funext t v
  refine propext ⟨fun hv => ?_, fun hv => ?_⟩
  · cases hv with
    | taken hp => exact .taken ((hcheck t).symm.trans hp)
    | refused hp => exact .refused ((hcheck t).symm.trans hp)
    | failed hp => exact .failed ((hcheck t).symm.trans hp)
  · cases hv with
    | taken hp => exact .taken ((hcheck t).trans hp)
    | refused hp => exact .refused ((hcheck t).trans hp)
    | failed hp => exact .failed ((hcheck t).trans hp)

/-! ## Both questions -/

/-- How the user is asked for a kind and, if it needs one, for a config file.  The second question
goes on with the answers that the first one has left. -/
inductive Selected (s : Session) :
    Except Failure (ComponentKind × Option Path) → Session → Prop where
  /-- no kind is chosen -/
  | noKind {f : Failure} {s' : Session}
      (hkind : Asks "Component type" KindVerdict (s.showing menu) (.error f) s') :
      Selected s (.error f) s'
  /-- a kind that needs no config file is chosen -/
  | container {kind : ComponentKind} {s' : Session} (hneeds : kind.needsConfig = false)
      (hkind : Asks "Component type" KindVerdict (s.showing menu) (.ok kind) s') :
      Selected s (.ok (kind, none)) s'
  /-- no config file is named -/
  | noPath {kind : ComponentKind} {f : Failure} {mid s' : Session}
      (hneeds : kind.needsConfig = true)
      (hkind : Asks "Component type" KindVerdict (s.showing menu) (.ok kind) mid)
      (hpath : Asks "Enter the path to your configuration file" (PathVerdict s) mid (.error f) s') :
      Selected s (.error f) s'
  | both {kind : ComponentKind} {path : Path} {mid s' : Session} (hneeds : kind.needsConfig = true)
      (hkind : Asks "Component type" KindVerdict (s.showing menu) (.ok kind) mid)
      (hpath : Asks "Enter the path to your configuration file" (PathVerdict s) mid (.ok path) s') :
      Selected s (.ok (kind, some path)) s'

variable {r : Except Failure (ComponentKind × Option Path)} {mid : Session}

/-- What comes of asking for a config file after the question for a kind. -/
theorem outcome_configPath_iff_of_kind {path : Except Failure Path}
    (hkind : componentKind.outcome s = (.ok kind, mid)) :
    configPath.outcome mid = (path, s') ↔
      Asks "Enter the path to your configuration file" (PathVerdict s) mid path s' := by
  rw [outcome_configPath_iff, pathVerdict_eq (keeps_componentKind.of_outcome hkind)]

/-- Asking goes on after a kind is chosen. -/
theorem outcome_selection_of_kind (hkind : componentKind.outcome s = (.ok kind, mid)) :
    selection.outcome s =
      if kind.needsConfig = true then
        (configPath >>= fun path => pure (kind, some path)).outcome mid
      else (.ok (kind, none), mid) := by
  unfold selection
  rw [outcome_bind_of_ok hkind]
  split <;> rfl

theorem selected_of_outcome (hrun : selection.outcome s = (r, s')) : Selected s r s' := by
  rcases hkind : componentKind.outcome s with ⟨f | kind, mid⟩
  · rw [selection, outcome_bind_of_error hkind] at hrun
    cases hrun
    exact .noKind (outcome_componentKind_iff.1 hkind)
  · rw [outcome_selection_of_kind hkind] at hrun
    split at hrun
    · rename_i hneeds
      rcases hpath : configPath.outcome mid with ⟨f | path, last⟩
      · rw [outcome_bind_of_error hpath] at hrun
        cases hrun
        exact .noPath hneeds (outcome_componentKind_iff.1 hkind)
          ((outcome_configPath_iff_of_kind hkind).1 hpath)
      · rw [outcome_bind_of_ok hpath] at hrun
        cases hrun
        exact .both hneeds (outcome_componentKind_iff.1 hkind)
          ((outcome_configPath_iff_of_kind hkind).1 hpath)
    · rename_i hneeds
      cases hrun
      exact .container (Bool.eq_false_iff.2 hneeds) (outcome_componentKind_iff.1 hkind)

theorem Selected.outcome_selection (h : Selected s r s') : selection.outcome s = (r, s') := by
  cases h with
  | noKind hkind =>
    exact outcome_bind_of_error (outcome_componentKind_iff.2 hkind) _
  | container hneeds hkind =>
    rw [outcome_selection_of_kind (outcome_componentKind_iff.2 hkind), hneeds]
    rfl
  | noPath hneeds hkind hpath =>
    have hkind' := outcome_componentKind_iff.2 hkind
    rw [outcome_selection_of_kind hkind', if_pos hneeds]
    exact outcome_bind_of_error ((outcome_configPath_iff_of_kind hkind').2 hpath) _
  | both hneeds hkind hpath =>
    have hkind' := outcome_componentKind_iff.2 hkind
    rw [outcome_selection_of_kind hkind', if_pos hneeds]
    exact outcome_bind_of_ok ((outcome_configPath_iff_of_kind hkind').2 hpath) _

/-- What comes of asking for a kind and a config file, whatever answers are typed and whatever files
there are.  The kind is the one that the first answer with a name or number of a kind chooses.  The
path is the first answer behind it that the check lets through, unless the check fails before. -/
theorem outcome_selection_iff (s s' : Session) (r : Except Failure (ComponentKind × Option Path)) :
    selection.outcome s = (r, s') ↔ Selected s r s' :=
  ⟨selected_of_outcome, Selected.outcome_selection⟩

/-- A session with one config file, in which the home of a user is typed who does not exist. -/
def strangerSession : Session :=
  { Session.start ⟨[(["root"], .dir), (["root", "pump.json"], .file (Utf8.encodeChars ['{', '}']))]⟩
      ["root"] ⟨.root, ["templates"]⟩ [] with
    answers := [some "state", some "~stranger/pump.json", some "pump.json"] }

/-- Not in all sessions is the path taken that is the first to pass the check. -/
theorem exists_passed_not_selected :
    ¬ ∀ (s : Session) (choice t : Text) (kind : ComponentKind) (passed : List Text)
      (left : List (Option Text)), kind.needsConfig = true →
      s.answers = some choice :: passed.map some ++ some t :: left →
      Chooses (Text.trim CodePoint.isBlank choice) kind →
      (∀ u ∈ passed,
        ((configPathProblem (Text.trim CodePoint.isBlank u)).outcome s).1 ≠ .ok none) →
      ((configPathProblem (Text.trim CodePoint.isBlank t)).outcome s).1 = .ok none →
      (selection.outcome s).1
        = .ok (kind, some (Path.ofText (Text.trim CodePoint.isBlank t))) := by
  intro hall
  have hbroken : (selection.outcome strangerSession).1 = .error .noHome := by decide +kernel
  have hstranger : ∀ u ∈ [("~stranger/pump.json" : Text)],
      ((configPathProblem (Text.trim CodePoint.isBlank u)).outcome strangerSession).1
        ≠ .ok none := by decide +kernel
  have hpump : ((configPathProblem (Text.trim CodePoint.isBlank "pump.json")).outcome
      strangerSession).1 = .ok none := by decide +kernel
  have htaken := hall strangerSession "state" "pump.json" .state ["~stranger/pump.json"] [] rfl rfl
    (.inl rfl) hstranger hpump
  rw [hbroken] at htaken
  cases htaken

end DashboardKit.Prompt
