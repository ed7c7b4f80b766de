import DashboardKit.Component.Loader
import DashboardKit.Prompt
import DashboardKit.Proofs.Session.Frame

/-!
# What questions and config files leave alone

Asking takes answers and shows something; reading a config file only shows something.  Neither
touches a file or calls the package manager, whatever comes of it.

Main statements: `Prompt.keeps_selection` and `ConfigFile.keeps_load`.
-/

set_option autoImplicit false

namespace DashboardKit

variable {α : Type}

namespace Session

/-- The second session differs from the first at most in what was printed and in the answers that
are left. -/
def AsksTo (s s' : Session) : Prop := s' = { s with events := s'.events, answers := s'.answers }

instance : IsPreorder Session AsksTo where
  refl _ := rfl
  trans s₁ s₂ s₃ h h' := by
    unfold AsksTo at h h' ⊢
    rw [h', h]

theorem PrintsTo.asksTo {s s' : Session} (h : PrintsTo s s') : AsksTo s s' := by
  unfold PrintsTo at h
  unfold AsksTo
  rw [h]

/-- The files are the same. -/
theorem AsksTo.tree_eq {s s' : Session} (h : AsksTo s s') : s'.tree = s.tree := by
  unfold AsksTo at h
  rw [h]

/-- The package manager was not called. -/
theorem AsksTo.installCalls_eq {s s' : Session} (h : AsksTo s s') :
    s'.installCalls = s.installCalls := by
  unfold AsksTo at h
  rw [h]

end Session

open Session

namespace Action

theorem Keeps.asksTo {a : Action α} (h : a.Keeps PrintsTo) : a.Keeps AsksTo :=
  h.mono fun _ _ hs => hs.asksTo

/-! ## Printing -/

theorem keeps_printError (t : Text) : (printError t).Keeps PrintsTo := keeps_printMarkup _

theorem keeps_printTable (title : Text) (columns : List Text) (rows : List (List Text)) :
    (printTable title columns rows).Keeps PrintsTo := by
  have hcells (row : List Text) : (row.mapM shownMarkup).Keeps PrintsTo :=
    keeps_mapM fun t => keeps_ofExcept Failure.markup (Markup.shown t)
  exact (keeps_mapM hcells).bind fun _ => keeps_emit _

theorem keeps_printSummary (title : Text) (rows : List (Text × Text)) :
    (printSummary title rows).Keeps PrintsTo :=
  (keeps_printTable _ _ _).bind fun _ => keeps_print []

/-! ## Reading -/

theorem keeps_isFile (p : Path) : (isFile p).Keeps Eq := by
  unfold isFile
  split
  · exact keeps_get.bind fun _ => keeps_ofExcept _ _
  · exact keeps_pure false

theorem keeps_homeText (home? : Option Text) : (homeText home?).Keeps Eq := by
  unfold homeText
  split
  · exact keeps_throw _
  · dsimp only
    split
    · exact keeps_throw _
    · exact keeps_pure _

theorem keeps_homeOf (segment : Text) : (homeOf segment).Keeps Eq := by
  refine keeps_get.bind fun s => ?_
  split
  · exact keeps_homeText _
  · exact (keeps_checkName _).bind fun _ => keeps_homeText _

theorem keeps_expandHome (p : Path) : (expandHome p).Keeps Eq := by
  unfold expandHome
  split
  · split
    · exact (keeps_homeOf _).bind fun _ => keeps_pure _
    · exact keeps_pure p
  · exact keeps_pure p

/-! ## Questions -/

/-- A question takes an answer, if there is one. -/
theorem keeps_ask (prompt : Text) : (ask prompt).Keeps AsksTo := by
  refine (keeps_emit _).asksTo.bind fun _ s => ?_
  rw [outcome_bind]
  simp only [outcome_get]
  cases hanswers : s.answers with
  | nil => exact refl_of AsksTo s
  | cons answer rest =>
    have htaken : AsksTo s { s with answers := rest } := rfl
    rw [outcome_bind_of_ok (outcome_set _ s)]
    cases answer with
    | none => exact htaken
    | some t => exact htaken

end Action

namespace Prompt

open DashboardKit.Action

theorem keeps_configPathProblem (t : Text) : (configPathProblem t).Keeps Eq := by
  unfold configPathProblem
  split
  · exact keeps_pure _
  · split
    · exact keeps_pure _
    · refine (keeps_expandHome _).bind fun p => (keeps_resolve p).bind fun path => ?_
      refine (keeps_isFile path).bind fun isFile => ?_
      split <;> exact keeps_pure _

theorem keeps_askKind (bound : Nat) : (askKind bound).Keeps AsksTo := by
  induction bound with
  | zero => exact keeps_throw _
  | succ bound ih =>
    refine (keeps_ask _).bind fun answer => ?_
    split
    · exact keeps_pure _
    · exact (keeps_printMarkup _).asksTo.bind fun _ => ih

theorem keeps_askConfigPath (bound : Nat) : (askConfigPath bound).Keeps AsksTo := by
  induction bound with
  | zero => exact keeps_throw _
  | succ bound ih =>
    refine (keeps_ask _).bind fun answer => ?_
    refine (keeps_configPathProblem answer).of_eq.bind fun problem => ?_
    split
    · exact keeps_pure _
    · exact (keeps_printMarkup _).asksTo.bind fun _ => ih

theorem keeps_componentKind : componentKind.Keeps AsksTo := by
  refine (keeps_printMarkup _).asksTo.bind fun _ => ?_
  refine (keeps_forM fun _ => (keeps_printMarkup _).asksTo).bind fun _ => ?_
  exact keeps_get.bind fun s => keeps_askKind _

theorem keeps_configPath : configPath.Keeps AsksTo :=
  keeps_get.bind fun _ => keeps_askConfigPath _

/-- Asking for what options leave open takes answers and shows something. -/
theorem keeps_selection : selection.Keeps AsksTo := by
  refine keeps_componentKind.bind fun kind => ?_
  split
  · exact keeps_configPath.bind fun _ => keeps_pure _
  · exact keeps_pure _

end Prompt

namespace ConfigFile

open DashboardKit.Action

theorem keeps_readDocument (path : Path) : (readDocument path).Keeps Eq := by
  refine (keeps_readFile path).bind fun octets => ?_
  split
  · exact keeps_throw _
  · split
    · split <;> first | exact keeps_pure _ | exact keeps_throw _
    · split <;> first | exact keeps_pure _ | exact keeps_throw _

/-- Reading a config file shows something and does nothing else. -/
theorem keeps_load (source : Path) (echo : Bool) : (load source echo).Keeps PrintsTo := by
  unfold load
  refine (keeps_expandHome source).of_eq.bind fun p => (keeps_resolve p).of_eq.bind fun path => ?_
  refine (keeps_isFile path).of_eq.bind fun isFile => ?_
  refine keeps_after_if (keeps_throw _) (keeps_after_if (keeps_throw _) ?_)
  refine keeps_after_if (keeps_print _) ((keeps_readDocument path).of_eq.bind fun v => ?_)
  cases v with
  | map raw =>
    refine keeps_after_if (keeps_throw _) ?_
    cases ComponentConfig.ofEntries raw with
    | error ps => exact keeps_throw _
    | ok config =>
      show Action.Keeps _ (if echo = true then _ else _)
      split
      · refine (keeps_ofExcept _ _).bind fun rows => ?_
        exact (keeps_printSummary _ rows).bind fun _ => keeps_pure config
      · exact keeps_pure config
  | _ => exact keeps_throw _

end ConfigFile

end DashboardKit
