import DashboardKit.Proofs.CommandLine.Refused
import DashboardKit.Proofs.Generation.Guidance

/-!
# The status of a run

A run ends with a status whatever happens in it.  It is 0 where generating gave a report, unless
nothing was written and the options are strict about that.  What went wrong with the packages and is
noted in the report makes no difference, and showing the report to the user never fails.

Main statement: `CommandLine.run_status`.
-/

set_option autoImplicit false

namespace DashboardKit

open Session

/-! ## Showing reports -/

/-- A report that tells of artifacts of its kind and of nothing else. -/
structure Report.OfKind (r : Report) : Prop where
  written : ∀ e ∈ r.written, ∃ key ∈ r.kind.artifacts, e.1 = Text.ofString key.name
  skipped : ∀ k ∈ r.skipped, ∃ key ∈ r.kind.artifacts, k = Text.ofString key.name

theorem Report.OfKind.mem_artifacts {r : Report} (h : r.OfKind) {key : ArtifactKey}
    (hwrote : r.Wrote key) : key ∈ r.kind.artifacts := by
  obtain ⟨e, he, hname⟩ := List.mem_map.1 hwrote
  obtain ⟨key', hkey', hname'⟩ := h.written e he
  obtain rfl : key = key' := ArtifactKey.eq_of_name (hname.symm.trans hname')
  exact hkey'

namespace Guide

variable {P : Text → Prop} {name value : Text} {rows : List (Text × Text)} {gd : Guide} {r : Report}

/-- A text that is put under a label adds no other label. -/
theorem forall_mem_row (hname : P name) (hrows : ∀ e ∈ rows, P e.1) :
    ∀ e ∈ row name value rows, P e.1 := by
  induction rows with
  | nil => exact List.forall_mem_singleton.2 hname
  | cons e rows ih =>
    rw [List.forall_mem_cons] at hrows
    unfold row
    split
    · exact List.forall_mem_cons.2 ⟨hrows.1, hrows.2⟩
    · exact List.forall_mem_cons.2 ⟨hrows.1, ih hrows.2⟩

theorem forall_mem_foldl_row {α : Type} {l : List α} {name value : α → Text}
    (hnames : ∀ x ∈ l, P (name x)) (hrows : ∀ e ∈ rows, P e.1) :
    ∀ e ∈ l.foldl (fun rows x => row (name x) (value x) rows) rows, P e.1 := by
  induction l generalizing rows with
  | nil => exact hrows
  | cons x l ih =>
    rw [List.forall_mem_cons] at hnames
    exact ih hnames.2 (forall_mem_row hnames.1 hrows)

/-- An artifact is called so in the table. -/
def IsLabel (t : Text) : Prop := ∃ key : ArtifactKey, t = label (Text.ofString key.name)

/-- The table has no other labels than those of artifacts. -/
theorem isLabel_of_mem_files (h : r.OfKind) : ∀ e ∈ gd.files r, IsLabel e.1 := by
  have hwritten : ∀ e ∈ r.written, IsLabel (label e.1) := by
    intro e he
    obtain ⟨key, -, hname⟩ := h.written e he
    exact ⟨key, congrArg label hname⟩
  have hskipped : ∀ k ∈ r.skipped, IsLabel (label k) := by
    intro k hk
    obtain ⟨key, -, hname⟩ := h.skipped k hk
    exact ⟨key, congrArg label hname⟩
  exact forall_mem_foldl_row hskipped (forall_mem_foldl_row hwritten (List.forall_mem_nil _))

theorem exists_shown_of_isLabel {t : Text} (h : IsLabel t) : ∃ u, Markup.shown t = .ok u := by
  obtain ⟨key, rfl⟩ := h
  have hshown : Markup.shown (label (Text.ofString key.name))
      = .ok (label (Text.ofString key.name)) := by
    cases key <;> decide +kernel
  exact ⟨_, hshown⟩

theorem shown_completed :
    Markup.shown "\n[bold green]✅ Component generation completed![/bold green]"
      = .ok "\n✅ Component generation completed!" := by
  decide +kernel

theorem shown_finished :
    Markup.shown
        "\n[bold yellow]Component generation finished without writing any files.[/bold yellow]"
      = .ok "\nComponent generation finished without writing any files." := by
  decide +kernel

/-- Every report on artifacts of its kind is shown. -/
theorem succeeds_print (gd : Guide) (h : r.OfKind) : (gd.print r).Succeeds := by
  have hheading : ∃ u, Markup.shown (if r.succeeded then
      "\n[bold green]✅ Component generation completed![/bold green]"
      else "\n[bold yellow]Component generation finished without writing any files.[/bold yellow]")
        = .ok u := by
    split
    · exact ⟨_, shown_completed⟩
    · exact ⟨_, shown_finished⟩
  have hlabels : ∀ e ∈ gd.files r, ∃ u, Markup.shown e.1 = .ok u := fun e he =>
    exists_shown_of_isLabel (isLabel_of_mem_files h e he)
  obtain ⟨told, hpresents⟩ := gd.exists_presents h.mem_artifacts
  unfold print
  refine (Action.succeeds_printMarkup hheading).bind fun _ => ?_
  refine (Action.succeeds_printSummary hlabels _).bind fun _ => ?_
  split
  · rw [hpresents.rendered]
    exact fun _ => ⟨(), _, rfl⟩
  · exact Action.succeeds_pure ()

end Guide

/-! ## What is written in a run -/

namespace Generator

variable {st : Settings} {kind : ComponentKind} {config : Option ComponentConfig}
  {name : Text} {context : Entries} {keys : List ArtifactKey} {p p' : Progress}
  {s mid s' : Session} {m m' : Reconciler} {r : Report} {written : Written} {skipped : List Text}

/-- In the course of making artifacts in order one of them is written: when its turn comes, its
template is there and renders to something, and afterwards this is what its file holds. -/
inductive WritesSome (st : Settings) (kind : ComponentKind) (name : Text) (context : Entries) :
    List ArtifactKey → Progress → Session → Prop where
  | now {key : ArtifactKey} {keys : List ArtifactKey} {p p' : Progress} {s s' : Session}
      {path : Path} {octets : Utf8.Octets}
      (hmake : (make st kind name context p key).outcome s = (.ok p', s'))
      (hcomes : ComesTo st kind name context s key path octets)
      (hread : s'.tree.readFile s'.workingDir path = .ok octets) :
      WritesSome st kind name context (key :: keys) p s
  | later {key : ArtifactKey} {keys : List ArtifactKey} {p p' : Progress} {s s' : Session}
      (hmake : (make st kind name context p key).outcome s = (.ok p', s'))
      (hlater : WritesSome st kind name context keys p' s') :
      WritesSome st kind name context (key :: keys) p s

theorem note_ne_nil (key : Text) (path : Path) (w : Written) : Written.note key path w ≠ [] := by
  cases w with
  | nil => exact List.cons_ne_nil _ _
  | cons e w =>
    unfold Written.note
    split <;> exact List.cons_ne_nil _ _

/-- Something is noted as written exactly if it was so before or an artifact is written. -/
theorem written_ne_nil_iff
    (h : (keys.foldlM (make st kind name context) p).outcome s = (.ok p', s')) :
    p'.written ≠ [] ↔ p.written ≠ [] ∨ WritesSome st kind name context keys p s := by
  induction keys generalizing p s with
  | nil =>
    obtain ⟨rfl, -⟩ := Action.outcome_pure_eq_ok.1 h
    exact (or_iff_left nofun).symm
  | cons key keys ih =>
    rw [List.foldlM_cons] at h
    obtain ⟨p₁, mid, hmake, hrest⟩ := Action.outcome_bind_eq_ok.1 h
    rw [ih hrest]
    rcases make_eq_ok hmake with ⟨⟨f, htext⟩, hwritten, -, -⟩ |
      ⟨path, octets, hcomes, hwritten, -, -, hread⟩
    · rw [hwritten]
      refine or_congr_right ⟨.later hmake, fun hwrites => ?_⟩
      cases hwrites with
      | now _ hcomes _ =>
        -- the template would have to be there
        obtain ⟨t, -, -, hloaded, -⟩ := hcomes
        rw [htext] at hloaded
        cases hloaded
      | later hmake' hlater =>
        rw [hmake] at hmake'
        cases hmake'
        exact hlater
    · refine iff_of_true (.inl ?_) (.inr (.now hmake hcomes hread))
      rw [hwritten]
      exact note_ne_nil _ _ _

/-- What was written and what was skipped is noted under the keys of artifacts. -/
theorem Made.forall_mem_keys (h : Made st kind name context keys s written skipped s') :
    (∀ e ∈ written, ∃ key ∈ keys, e.1 = Text.ofString key.name) ∧
      ∀ k ∈ skipped, ∃ key ∈ keys, k = Text.ofString key.name := by
  induction h with
  | done s => exact ⟨List.forall_mem_nil _, List.forall_mem_nil _⟩
  | @skip key _ _ _ _ _ _ _ _ _ _ ih =>
    obtain ⟨hwritten, hskipped⟩ := ih
    refine ⟨fun e he => ?_, List.forall_mem_cons.2 ⟨⟨key, List.mem_cons_self, rfl⟩, fun k hk => ?_⟩⟩
    · exact (hwritten e he).imp fun _ h => ⟨List.mem_cons_of_mem _ h.1, h.2⟩
    · exact (hskipped k hk).imp fun _ h => ⟨List.mem_cons_of_mem _ h.1, h.2⟩
  | @write key _ _ _ _ _ _ _ _ _ _ _ _ ih =>
    obtain ⟨hwritten, hskipped⟩ := ih
    refine ⟨List.forall_mem_cons.2 ⟨⟨key, List.mem_cons_self, rfl⟩, fun e he => ?_⟩, fun k hk => ?_⟩
    · exact (hwritten e he).imp fun _ h => ⟨List.mem_cons_of_mem _ h.1, h.2⟩
    · exact (hskipped k hk).imp fun _ h => ⟨List.mem_cons_of_mem _ h.1, h.2⟩

/-- What a report tells of artifacts stays as it was noted while they were made. -/
theorem ofKind_of_packageStage
    (hmake : (makeAll st kind (componentName kind config) context).outcome s = (.ok p, s'))
    (hpackages : (packageStage st kind config p).outcome m s' = (.ok r, m', mid)) :
    r.OfKind ∧ r.written = p.written := by
  obtain ⟨-, hwritten, hskipped⟩ := packageStage_eq_ok hpackages
  obtain ⟨w, k, hmade, hw, hk⟩ :=
    foldlM_make_eq_ok (ComponentKind.nodup_artifacts kind) (fun _ _ => List.not_mem_nil) hmake
  rw [List.nil_append] at hw hk
  obtain rfl := kind_of_packageStage hpackages
  refine ⟨⟨?_, ?_⟩, hwritten⟩
  · rw [hwritten, hw]
    exact hmade.forall_mem_keys.1
  · rw [hskipped, hk]
    exact hmade.forall_mem_keys.2

end Generator

namespace CommandLine

open DashboardKit.Action Generator

variable {o : Options} {s s' mid : Session} {f : Failure} {r : Report}

/-! ## Reports -/

/-- Generating what options ask for, up to the report. -/
def generation (o : Options) : Action Report := do
  welcome
  let settings ← settings o
  let (kind, path) ← selection o
  generate settings kind path

/-- An artifact of the kind that options ask for is written in a run. -/
def WritesArtifact (o : Options) (s : Session) : Prop :=
  ∃ p start, (welcome >>= fun _ => preparation o).outcome s = (.ok p, start) ∧
    WritesSome p.settings p.kind (componentName p.kind p.config) p.context p.kind.artifacts
      ⟨[], [], []⟩ start

/-- A report comes of what options ask for where the artifacts and then the packages are done. -/
theorem generation_eq (o : Options) :
    generation o = (welcome >>= fun _ => preparation o) >>= fun p =>
      makeAll p.settings p.kind (componentName p.kind p.config) p.context >>= fun made =>
        (packageStage p.settings p.kind p.config made).startedWith (.ofSettings p.settings) := by
  unfold generation preparation
  simp only [generate_eq, Generator.startedWith_run, bind_assoc, pure_bind]

/-- A report tells of artifacts of its kind, and notes something as written exactly if it was. -/
theorem ofKind_of_generation (h : (generation o).outcome s = (.ok r, s')) :
    r.OfKind ∧ (r.written ≠ [] ↔ WritesArtifact o s) := by
  rw [generation_eq] at h
  obtain ⟨p, start, hprepare, hproduce⟩ := outcome_bind_eq_ok.1 h
  obtain ⟨made, mid, hmake, hpackages⟩ := outcome_bind_eq_ok.1 hproduce
  rcases hrun : (packageStage p.settings p.kind p.config made).outcome (.ofSettings p.settings) mid
    with ⟨result, m', last⟩
  rw [ActionOf.outcome_startedWith, hrun] at hpackages
  cases hpackages
  obtain ⟨hkind, hwritten⟩ := ofKind_of_packageStage hmake hrun
  refine ⟨hkind, ?_⟩
  rw [hwritten, written_ne_nil_iff hmake, or_iff_right (fun h => h rfl)]
  constructor
  · intro hwrites
    exact ⟨p, start, hprepare, hwrites⟩
  · rintro ⟨p', start', hprepare', hwrites⟩
    rw [hprepare] at hprepare'
    cases hprepare'
    exact hwrites

/-! ## The end of a run -/

/-- What options ask for: the settings, the kind and the config file. -/
def asked (o : Options) : Action (Settings × ComponentKind × Option Path) := do
  welcome
  let settings ← settings o
  return (settings, ← selection o)

theorem generation_eq_asked (o : Options) :
    generation o = asked o >>= fun x => generate x.1 x.2.1 x.2.2 := by
  unfold generation asked
  simp only [bind_assoc, pure_bind]

/-- The guide that is printed for a report. -/
def guideFor (st : Settings) : Guide :=
  .new st.layout (some st.projectRoot) st.installCommand

/-- Once there is a report it is shown. -/
theorem welcome_generateAsked_eq (o : Options) :
    (welcome >>= fun _ => generateAsked o) = asked o >>= fun x =>
      generate x.1 x.2.1 x.2.2 >>= fun r => (guideFor x.1).print r >>= fun _ => pure r := by
  unfold generateAsked asked guideFor
  simp only [bind_assoc, pure_bind]

/-- What ends generating ends what options ask for. -/
theorem outcome_generateAsked_of_error (h : (generation o).outcome s = (.error f, mid)) :
    (welcome >>= fun _ => generateAsked o).outcome s = (.error f, mid) := by
  rw [generation_eq_asked, outcome_bind_eq_error] at h
  rw [welcome_generateAsked_eq, outcome_bind_eq_error]
  rcases h with hasked | ⟨x, s₁, hasked, hgenerate⟩
  · exact .inl hasked
  · exact .inr ⟨x, s₁, hasked, outcome_bind_of_error hgenerate _⟩

/-- A report is shown to the user, whatever it says. -/
theorem exists_outcome_generateAsked (h : (generation o).outcome s = (.ok r, mid)) :
    ∃ s', (welcome >>= fun _ => generateAsked o).outcome s = (.ok r, s') := by
  have hkind : r.OfKind := (ofKind_of_generation h).1
  rw [generation_eq_asked] at h
  obtain ⟨x, s₁, hasked, hgenerate⟩ := outcome_bind_eq_ok.1 h
  obtain ⟨⟨⟩, s', hprint⟩ := (guideFor x.1).succeeds_print hkind mid
  refine ⟨s', ?_⟩
  rw [welcome_generateAsked_eq, outcome_bind_of_ok hasked, outcome_bind_of_ok hgenerate,
    outcome_bind_of_ok hprint, outcome_pure]

/-- A report in the end settles the status. -/
theorem outcome_run_of_ok (hlist : o.listKinds = false)
    (h : (welcome >>= fun _ => generateAsked o).outcome s = (.ok r, mid)) :
    (run o).outcome s = (conclude o.strict r).outcome mid := by
  obtain ⟨⟨⟩, greeted, hwelcome, hasked⟩ := outcome_bind_eq_ok.1 h
  have hcaught : (tryCatch (do return .ok (← generateAsked o)) fun f => return .error f :
      Action (Except Failure Report)).outcome greeted = (.ok (.ok r), mid) := by
    rw [outcome_tryCatch, outcome_bind_of_ok hasked]
    rfl
  unfold run
  rw [if_neg (by rw [hlist]; exact Bool.false_ne_true), outcome_bind_of_ok hwelcome,
    outcome_bind_of_ok hcaught]

/-- The status of a run, by what comes of generating. -/
def statusOf (strict : Bool) : Except Failure Report → Nat
  | .error f => failedStatus f
  | .ok r => if strict = true ∧ r.written = [] then 1 else 0

theorem failedStatus_ne_zero (f : Failure) : failedStatus f ≠ 0 := by
  unfold failedStatus
  split <;> simp

/-- What a report says counts only if the options are strict and nothing was written. -/
theorem exists_outcome_conclude (strict : Bool) (r : Report) (s : Session) :
    ∃ s', (conclude strict r).outcome s = (.ok (statusOf strict (.ok r)), s') := by
  have hempty : (strict && !r.succeeded) = true ↔ strict = true ∧ r.written = [] := by
    simp [Report.succeeded]
  unfold conclude statusOf
  simp only [hempty]
  split
  · obtain ⟨⟨⟩, s', hprint⟩ := succeeds_printError "Nothing was written and --strict is set." s
    exact ⟨s', outcome_bind_of_ok hprint _⟩
  · exact ⟨s, rfl⟩

/-- How a run ends, by what comes of generating. -/
theorem exists_outcome_run (hlist : o.listKinds = false) {result : Except Failure Report}
    (h : (generation o).outcome s = (result, mid)) :
    ∃ s', (run o).outcome s = (.ok (statusOf o.strict result), s') := by
  cases result with
  | error f =>
    obtain ⟨s', htell, -⟩ := exists_outcome_tell f mid
    exact ⟨s', (outcome_run_of_error hlist (outcome_generateAsked_of_error h)).trans htell⟩
  | ok r =>
    obtain ⟨s₁, hasked⟩ := exists_outcome_generateAsked h
    obtain ⟨s', hconclude⟩ := exists_outcome_conclude o.strict r s₁
    exact ⟨s', (outcome_run_of_ok hlist hasked).trans hconclude⟩

/-- A run always ends with a status.  It is 0 exactly if generating gives a report and, where the
options are strict, an artifact is written in this run.  Of a report it counts only whether anything
was written, whatever it says about the packages. -/
theorem run_status (o : Options) (s : Session) (hlist : o.listKinds = false) :
    ∃ status s', (run o).outcome s = (.ok status, s') ∧
      (o.strict = false → (status = 0 ↔ ∃ r mid, (generation o).outcome s = (.ok r, mid))) ∧
      (o.strict = true → (status = 0 ↔
        (∃ r mid, (generation o).outcome s = (.ok r, mid)) ∧ WritesArtifact o s)) ∧
      ∀ r mid, (generation o).outcome s = (.ok r, mid) →
        (r.written ≠ [] ↔ WritesArtifact o s) ∧
          status = if o.strict = true ∧ r.written = [] then 1 else 0 := by
  rcases hgeneration : (generation o).outcome s with ⟨f | r, mid⟩
  · obtain ⟨s', hrun⟩ := exists_outcome_run hlist hgeneration
    have hnone :
        ¬ ∃ r mid', (Except.error f, mid) = ((.ok r, mid') : Except Failure Report × _) := by
      rintro ⟨r, mid', heq⟩
      cases (Prod.mk.inj heq).1
    refine ⟨statusOf o.strict (.error f), s', hrun, ?_, ?_, ?_⟩
    · intro _
      exact iff_of_false (failedStatus_ne_zero f) hnone
    · intro _
      exact iff_of_false (failedStatus_ne_zero f) fun h => hnone h.1
    · intro r mid' heq
      exact absurd ⟨r, mid', heq⟩ hnone
  · obtain ⟨s', hrun⟩ := exists_outcome_run hlist hgeneration
    obtain ⟨-, hwrites⟩ := ofKind_of_generation hgeneration
    refine ⟨statusOf o.strict (.ok r), s', hrun, fun hstrict => ?_, fun hstrict => ?_, ?_⟩
    · rw [statusOf, hstrict]
      exact iff_of_true rfl ⟨r, mid, rfl⟩
    · rw [statusOf, hstrict, ← hwrites]
      by_cases hnone : r.written = []
      · rw [if_pos ⟨rfl, hnone⟩]
        exact iff_of_false Nat.one_ne_zero fun h => h.2 hnone
      · rw [if_neg fun h => hnone h.2]
        exact iff_of_true rfl ⟨⟨r, mid, rfl⟩, hnone⟩
    · rintro r' mid' ⟨⟩
      exact ⟨hwrites, rfl⟩

/-- A project without a manifest, and the template of the layout container. -/
def unmanagedSession : Session :=
  .start ⟨[
      (["project"], .dir),
      (["templates"], .dir),
      (["templates", "dashtable-component.js"], .file [0x3c, 0x3e])]⟩
    ["project"] ⟨.root, ["templates"]⟩ []

/-- Options for a layout container, which are strict. -/
def strictOptions : Options := { Options.standard with kind := some .dashtable, strict := true }

/-- The manifest is missed and noted, and the status is 0 as the container is written. -/
theorem run_status_unmanagedSession :
    strictOptions.listKinds = false ∧ WritesArtifact strictOptions unmanagedSession ∧
      ∃ r mid, (generation strictOptions).outcome unmanagedSession = (.ok r, mid) ∧
        r.dependencyError.isSome = true ∧
        ∃ s', (run strictOptions).outcome unmanagedSession = (.ok 0, s') := by
  have hreport : ((generation strictOptions).outcome unmanagedSession).1.toOption.map
      (fun r => (r.written.isEmpty, r.dependencyError.isSome)) = some (false, true) := by
    decide +kernel
  rcases hgeneration : (generation strictOptions).outcome unmanagedSession with ⟨result, mid⟩
  rw [hgeneration] at hreport
  obtain ⟨r, rfl, hsaid⟩ := exists_eq_ok_of_toOption_map hreport
  obtain ⟨hwritten, hnoted⟩ := Prod.mk.inj hsaid
  obtain ⟨status, s', hrun, -, hstrict, hreports⟩ :=
    run_status strictOptions unmanagedSession rfl
  have hwrites : WritesArtifact strictOptions unmanagedSession := by
    rw [← (hreports r mid hgeneration).1]
    simpa using hwritten
  obtain rfl : status = 0 := (hstrict rfl).2 ⟨⟨r, mid, hgeneration⟩, hwrites⟩
  exact ⟨rfl, hwrites, r, mid, rfl, hnoted, s', hrun⟩

end CommandLine

end DashboardKit
