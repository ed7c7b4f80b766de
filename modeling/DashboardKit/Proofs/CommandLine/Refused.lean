import DashboardKit.Proofs.CommandLine.Stages
import DashboardKit.Proofs.Generation.Reports
import DashboardKit.Proofs.Session.Printing

/-!
# Runs that the input ends

Input that cannot be used ends a run before anything is done: with a status that is not zero, no
file or directory is other than it was, and the package manager was not called.  So does whatever
else fails before the first template is looked up.

Main statement: `run_refused`.
-/

set_option autoImplicit false

namespace DashboardKit.CommandLine

open DashboardKit.Action Session

variable {o : Options} {s s' : Session} {f : Failure}

/-! ## What ends a run -/

/-- A failure ends what options ask for, after the user was greeted. -/
def EndedBy (o : Options) (s : Session) (f : Failure) : Prop :=
  ∃ s', (welcome >>= fun _ => generateAsked o).outcome s = (.error f, s')

/-- A failure ends what options ask for before the first template is looked up. -/
def EndedEarlyBy (o : Options) (s : Session) (f : Failure) : Prop :=
  ∃ s', (welcome >>= fun _ => preparation o).outcome s = (.error f, s')

theorem shown_welcome :
    Markup.shown "\n[bold blue]🚀 Welcome to Microlab! Let's create a new component.[/bold blue]\n"
      = .ok "\n🚀 Welcome to Microlab! Let's create a new component.\n" := by
  decide +kernel

/-- The user is greeted in every session. -/
theorem exists_outcome_welcome (s : Session) :
    ∃ mid, welcome.outcome s = (.ok (), mid) ∧ PrintsTo s mid := by
  obtain ⟨⟨⟩, mid, hwelcome, hprints⟩ :=
    (succeeds_printMarkup ⟨_, shown_welcome⟩).exists_outcome (keeps_printMarkup _) s
  exact ⟨mid, hwelcome, hprints⟩

/-- The input of the user ends a run only before the first template is looked up. -/
theorem endedEarlyBy_of_isInput (h : EndedBy o s f) (hinput : f.isInput = true) :
    EndedEarlyBy o s f := by
  obtain ⟨s', hfails⟩ := h
  rw [generateAsked_eq, ← bind_assoc, outcome_bind_eq_error] at hfails
  rcases hfails with hprepare | ⟨p, mid, -, hproduce⟩
  · exact ⟨s', hprepare⟩
  · have hother : f.isInput = false := failsWith_production p mid f s' hproduce
    rw [hinput] at hother
    cases hother

/-! ## What is told in the end -/

/-- The status of a run that a failure ends. -/
def failedStatus (f : Failure) : Nat := if f = .interrupted then 130 else 1

/-- A failure is told whatever it says. -/
theorem exists_outcome_tell (f : Failure) (s : Session) :
    ∃ s', (tell f).outcome s = (.ok (failedStatus f), s') ∧ PrintsTo s s' := by
  have herror (t : Text) (s : Session) :=
    (succeeds_printError t).exists_outcome (keeps_printError t) s
  unfold tell failedStatus
  split
  · obtain ⟨⟨⟩, mid, hprint, hprints⟩ := herror "\nAborted." s
    exact ⟨mid, outcome_bind_of_ok hprint _, hprints⟩
  · obtain ⟨⟨⟩, mid, hprint, hprints⟩ := herror (("\nError: " : Text) ++ f.message) s
    have hprints' (e : Event) : PrintsTo s { mid with events := mid.events ++ [e] } :=
      trans_of PrintsTo hprints (keeps_emit e mid)
    rw [outcome_bind_of_ok hprint]
    split
    · cases f.cause with
      | none => exact ⟨mid, rfl, hprints⟩
      | some cause => exact ⟨_, rfl, hprints' _⟩
    · exact ⟨_, rfl, hprints' _⟩

/-! ## Runs -/

/-- A failure that ends what options ask for is told in the end. -/
theorem outcome_run_of_error (hlist : o.listKinds = false) {mid : Session}
    (h : (welcome >>= fun _ => generateAsked o).outcome s = (.error f, mid)) :
    (run o).outcome s = (tell f).outcome mid := by
  obtain ⟨greeted, hwelcome, -⟩ := exists_outcome_welcome s
  rw [outcome_bind_of_ok hwelcome] at h
  have hcaught : (tryCatch (do return .ok (← generateAsked o)) fun f => return .error f :
      Action (Except Failure Report)).outcome greeted = (.ok (.error f), mid) := by
    rw [outcome_tryCatch, outcome_bind_of_error h]
    rfl
  unfold run
  rw [if_neg (by rw [hlist]; exact Bool.false_ne_true), outcome_bind_of_ok hwelcome,
    outcome_bind_of_ok hcaught]

/-- What ends a run before the first template is looked up ends it with the same failure, and only
answers were taken and something shown until then. -/
theorem EndedEarlyBy.asksTo (h : EndedEarlyBy o s f) :
    ∃ mid, (welcome >>= fun _ => generateAsked o).outcome s = (.error f, mid) ∧ AsksTo s mid := by
  obtain ⟨mid, hfails⟩ := h
  have hkeeps : (welcome >>= fun _ => preparation o).Keeps AsksTo :=
    (keeps_printMarkup _).asksTo.bind fun _ => keeps_preparation o
  refine ⟨mid, ?_, hkeeps.of_outcome hfails⟩
  rw [generateAsked_eq, ← bind_assoc]
  exact outcome_bind_of_error hfails _

/-- A run that is ended by the input of the user, or by anything else before the first template is
looked up, ends with a status that is not zero and leaves the files and the packages alone. -/
theorem run_refused (o : Options) (s : Session) (f : Failure) (hlist : o.listKinds = false)
    (hended : EndedBy o s f) (hearly : f.isInput = true ∨ EndedEarlyBy o s f) :
    ∃ s', (run o).outcome s = (.ok (failedStatus f), s') ∧ failedStatus f ≠ 0 ∧
      s'.tree = s.tree ∧ s'.installCalls = s.installCalls := by
  have hbefore : EndedEarlyBy o s f := hearly.elim (endedEarlyBy_of_isInput hended) id
  obtain ⟨mid, hfails, hasks⟩ := hbefore.asksTo
  obtain ⟨s', htell, hprints⟩ := exists_outcome_tell f mid
  have hwhole : AsksTo s s' := trans_of AsksTo hasks hprints.asksTo
  refine ⟨s', (outcome_run_of_error hlist hfails).trans htell, ?_, hwhole.tree_eq,
    hwhole.installCalls_eq⟩
  unfold failedStatus
  split <;> simp

/-- The sample project, with a user who chooses a kind at the second attempt and then breaks off. -/
def brokenOffSession : Session :=
  { Generator.sampleSession with answers := [some "7", some "state", none] }

/-- The user is asked three times, and the run ends with the status for breaking off. -/
theorem run_refused_brokenOffSession :
    EndedBy .standard brokenOffSession .interrupted ∧
      ∃ s', (run .standard).outcome brokenOffSession = (.ok 130, s') ∧
        s'.tree = brokenOffSession.tree ∧ s'.installCalls = [] := by
  have hresult : ((welcome >>= fun _ => generateAsked .standard).outcome brokenOffSession).1
      = .error .interrupted := by
    decide +kernel
  have hended : EndedBy .standard brokenOffSession .interrupted := by
    rcases hrun : (welcome >>= fun _ => generateAsked .standard).outcome brokenOffSession
      with ⟨result, mid⟩
    rw [hrun] at hresult
    exact ⟨mid, hrun.trans (congrArg (·, mid) hresult)⟩
  obtain ⟨s', hrun, -, htree, hcalls⟩ :=
    run_refused .standard brokenOffSession .interrupted rfl hended (.inl rfl)
  exact ⟨hended, s', hrun, htree, hcalls⟩

end DashboardKit.CommandLine
