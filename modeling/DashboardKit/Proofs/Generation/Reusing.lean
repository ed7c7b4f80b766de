import DashboardKit.Component.Choice
import DashboardKit.Proofs.Generation.Completion
import DashboardKit.Proofs.Session.Remembering

/-!
# Reconcilers and generators that are used again

A reconciler remembers what it added last and what went wrong with the package manager, and a
generator keeps its reconciler.  Each call of a reconciler begins with forgetting this, and nothing
looks at it before.  So it makes no difference whether an object answered other requests before,
whatever came of them.

Main statement: `reused_like_new`.
-/

set_option autoImplicit false

namespace DashboardKit

open ActionOf (Call Served serve)

/-! ## Reconcilers -/

namespace Reconciler

variable {required : List Requirement} {path : Path} {command : List Text} {runInstall : Bool}

/-- A reconciler as it was before its first call. -/
def unused (r : Reconciler) : Reconciler := r.remembering []

@[simp] theorem unused_new : (new command runInstall).unused = new command runInstall := rfl

/-- A call comes to the same as the first one would. -/
theorem outcome_reconcile_unused (required : List Requirement) (path : Path) (r : Reconciler)
    (s : Session) :
    (reconcile required path).outcome r s = (reconcile required path).outcome r.unused s := by
  unfold reconcile
  rw [ActionOf.outcome_bind, ActionOf.outcome_bind]
  simp only [ActionOf.outcome_remember, unused, remembering]

theorem retains_installAdded (dir : Path) : (installAdded dir).Retains unused := by
  unfold installAdded
  refine ActionOf.retains_memory.bind fun r => ?_
  refine (ActionOf.retains_lift _).bind fun failed => ?_
  split
  · refine ActionOf.Retains.bind (ActionOf.retains_remember ?_) fun _ => ActionOf.retains_lift _
    exact fun _ => rfl
  · exact ActionOf.retains_pure _

/-- A call changes nothing else of the memory than what the next one forgets. -/
theorem retains_reconcile (required : List Requirement) (path : Path) :
    (reconcile required path).Retains unused := by
  unfold reconcile
  refine ActionOf.Retains.bind (ActionOf.retains_remember ?_) fun _ => ?_
  · exact fun _ => rfl
  refine (ActionOf.retains_lift _).bind fun added => ?_
  split
  · exact ActionOf.retains_pure _
  · refine ActionOf.Retains.bind (ActionOf.retains_remember ?_) fun _ => ?_
    · exact fun _ => rfl
    refine (ActionOf.retains_lift _).bind fun _ => ?_
    refine ActionOf.retains_memory.bind fun r => ?_
    split
    · exact (retains_installAdded _).bind fun _ => ActionOf.retains_pure _
    · exact ActionOf.retains_pure _

/-- A request to bring the manifest at a path in line. -/
structure Request where
  required : List Requirement
  path : Path

/-- Answers a request. -/
def Request.answer (q : Request) : ActionOf Reconciler Bool := reconcile q.required q.path

/-- A call came to what it comes to with this reconciler in the same session: the result, what is
remembered, and the session afterwards. -/
def LikeWith (r : Reconciler) (e : Served Request Reconciler Bool) : Prop :=
  e.outcome = e.request.answer.outcome r e.before

/-- Every call of a reconciler is like one of a new reconciler. -/
theorem serve_like_new (command : List Text) (runInstall : Bool) (s : Session)
    (calls : List (Call Request)) :
    ∀ e ∈ serve Request.answer (new command runInstall) s calls,
      LikeWith (new command runInstall) e := by
  refine ActionOf.forall_mem_serve (fun r => r.unused = new command runInstall)
    (LikeWith (new command runInstall)) ?_ ?_ unused_new s calls
  · intro q r s hr
    rw [← hr]
    exact retains_reconcile q.required q.path r s
  · intro q r s hr
    rw [LikeWith, ← hr]
    exact outcome_reconcile_unused q.required q.path r s

end Reconciler

/-! ## Generators -/

namespace Generator

variable {st : Settings} {kind : ComponentKind} {config : Option ComponentConfig}

/-- A generator as it was before its first call. -/
def unused (g : Generator) : Generator := { g with reconciler := g.reconciler.unused }

theorem outcome_reconcileInto_unused (st : Settings) (r : Report) (m : Reconciler) (s : Session) :
    (reconcileInto st r).outcome m s = (reconcileInto st r).outcome m.unused s := by
  unfold reconcileInto
  rw [ActionOf.outcome_bind, ActionOf.outcome_bind, outcome_checking, outcome_checking]
  simp only
  rw [ActionOf.outcome_bind, ActionOf.outcome_bind, ActionOf.outcome_tryCatch,
    ActionOf.outcome_tryCatch, ActionOf.outcome_bind, ActionOf.outcome_bind,
    Reconciler.outcome_reconcile_unused]

theorem retains_reconcileInto (st : Settings) (r : Report) :
    (reconcileInto st r).Retains Reconciler.unused := by
  unfold reconcileInto
  refine (ActionOf.retains_lift _).bind fun _ => ?_
  refine ActionOf.Retains.bind ?_ fun result => ?_
  · refine ActionOf.Retains.tryCatch ?_ fun f => ?_
    · exact (Reconciler.retains_reconcile _ _).bind fun _ => ActionOf.retains_pure _
    split
    · exact ActionOf.retains_pure _
    · exact ActionOf.retains_throw _
  · split
    · exact ActionOf.retains_lift _
    · refine ActionOf.retains_memory.bind fun m => ?_
      split <;> exact ActionOf.retains_pure _

/-- In the second stage the reconciler is called before anything is read of its memory. -/
theorem outcome_packageStage_unused (st : Settings) (kind : ComponentKind)
    (config : Option ComponentConfig) (p : Progress) (m : Reconciler) (s : Session) :
    (packageStage st kind config p).outcome m s
      = (packageStage st kind config p).outcome m.unused s := by
  unfold packageStage
  rw [ActionOf.outcome_bind, ActionOf.outcome_bind, outcome_reconcileInto_unused]

theorem retains_packageStage (st : Settings) (kind : ComponentKind)
    (config : Option ComponentConfig) (p : Progress) :
    (packageStage st kind config p).Retains Reconciler.unused := by
  unfold packageStage
  refine (retains_reconcileInto st _).bind fun r => ?_
  split
  · exact ActionOf.retains_pure _
  · exact (ActionOf.retains_lift _).bind fun _ => ActionOf.retains_pure _

/-! ## Calls -/

/-- A run gets to the reconciler: its artifacts are made. -/
def Reconciles (st : Settings) (kind : ComponentKind) (config : Option ComponentConfig)
    (s : Session) : Prop :=
  ∃ p mid, (artifactStage st kind config).outcome s = (.ok p, mid)

theorem retains_run (st : Settings) (kind : ComponentKind) (config : Option ComponentConfig) :
    (run st kind config).Retains Reconciler.unused := by
  intro m s
  rw [outcome_run]
  rcases (artifactStage st kind config).outcome s with ⟨f | p, mid⟩
  · rfl
  · exact retains_packageStage st kind config p m mid

theorem retains_generate (kind : ComponentKind) (config : Option ComponentConfig) :
    (generate kind config).Retains unused := by
  intro g s
  have hretains := retains_run g.settings kind config g.reconciler s
  rcases hrun : (run g.settings kind config).outcome g.reconciler s with ⟨result, m, s'⟩
  rw [hrun] at hretains
  rw [outcome_generate hrun, unused, hretains]
  rfl

/-- A run that does not get to the reconciler leaves its memory alone and does not look at it; any
other comes to the same as the first one would. -/
theorem outcome_run_unused (st : Settings) (kind : ComponentKind) (config : Option ComponentConfig)
    (m : Reconciler) (s : Session) :
    (Reconciles st kind config s ∧
        (run st kind config).outcome m s = (run st kind config).outcome m.unused s) ∨
      (¬ Reconciles st kind config s ∧ ∃ f mid, ∀ m : Reconciler,
        (run st kind config).outcome m s = (.error f, m, mid)) := by
  rcases hstage : (artifactStage st kind config).outcome s with ⟨f | p, mid⟩
  · refine .inr ⟨?_, f, mid, fun m => by rw [outcome_run, hstage]⟩
    rintro ⟨p, mid', hok⟩
    rw [hstage] at hok
    cases hok
  · refine .inl ⟨⟨p, mid, hstage⟩, ?_⟩
    rw [outcome_run, outcome_run, hstage]
    exact outcome_packageStage_unused st kind config p m mid

/-- A request to generate a component of a kind that is yet to be told. -/
structure Request where
  type : Value
  config : Option ComponentConfig

/-- Answers a request. -/
def Request.answer (q : Request) : ActionOf Generator Report := do
  let kind ← ActionOf.lift (Action.ofExcept (fun f => f) (ComponentKind.ofValue q.type))
  generate kind q.config

/-- A request gets to the reconciler of a generator with these settings. -/
def Request.Reconciles (st : Settings) (q : Request) (s : Session) : Prop :=
  ∃ kind, ComponentKind.ofValue q.type = .ok kind ∧ Generator.Reconciles st kind q.config s

theorem Request.outcome_answer (q : Request) (g : Generator) (s : Session) :
    q.answer.outcome g s = match ComponentKind.ofValue q.type with
      | .error f => (.error f, g, s)
      | .ok kind => (generate kind q.config).outcome g s := by
  unfold answer
  rw [ActionOf.outcome_bind, ActionOf.outcome_lift, Action.outcome_ofExcept]
  cases ComponentKind.ofValue q.type <;> rfl

theorem Request.retains_answer (q : Request) : q.answer.Retains unused :=
  (ActionOf.retains_lift _).bind fun kind => retains_generate kind q.config

/-- A call came to what it comes to with this generator in the same session. -/
structure LikeWith (g : Generator) (e : Served Request Generator Report) : Prop where
  /-- the same report, or the same failure -/
  result : e.outcome.1 = (e.request.answer.outcome g e.before).1
  /-- the same files, calls of the package manager, and lines printed -/
  session : e.outcome.2.2 = (e.request.answer.outcome g e.before).2.2
  /-- what is remembered is the same if the reconciler was called -/
  memory : e.request.Reconciles g.settings e.before →
    e.outcome.2.1 = (e.request.answer.outcome g e.before).2.1

/-- A call comes to what it would come to with the generator as it was before its first call. -/
theorem likeWith_unused (q : Request) (g : Generator) (s : Session) :
    LikeWith g.unused ⟨q, s, q.answer.outcome g s⟩ := by
  have hanswer := q.outcome_answer g s
  have hanswer' := q.outcome_answer g.unused s
  cases hkind : ComponentKind.ofValue q.type with
  | error f =>
    simp only [hkind] at hanswer hanswer'
    refine ⟨by rw [hanswer, hanswer'], by rw [hanswer, hanswer'], ?_⟩
    rintro ⟨kind, hkind', -⟩
    rw [hkind] at hkind'
    cases hkind'
  | ok kind =>
    simp only [hkind] at hanswer hanswer'
    rcases outcome_run_unused g.settings kind q.config g.reconciler s with
      ⟨-, hsame⟩ | ⟨hnot, f, mid, hfails⟩
    · rcases hrun : (run g.settings kind q.config).outcome g.reconciler s with ⟨result, m, s'⟩
      rw [outcome_generate hrun] at hanswer
      rw [outcome_generate (hsame.symm.trans hrun)] at hanswer'
      have hequal : q.answer.outcome g s = q.answer.outcome g.unused s :=
        hanswer.trans hanswer'.symm
      exact ⟨by rw [hequal], by rw [hequal], fun _ => by rw [hequal]⟩
    · rw [outcome_generate (hfails g.reconciler)] at hanswer
      rw [outcome_generate (hfails g.unused.reconciler)] at hanswer'
      refine ⟨by rw [hanswer, hanswer'], by rw [hanswer, hanswer'], ?_⟩
      rintro ⟨kind', hkind', hreconciles⟩
      obtain rfl := Except.ok.inj (hkind.symm.trans hkind')
      exact absurd hreconciles hnot

/-- Every call of a generator is like one of a new generator. -/
theorem serve_like_new (st : Settings) (command : List Text) (runInstall : Bool) (s : Session)
    (calls : List (Call Request)) :
    ∀ e ∈ serve Request.answer ⟨st, .new command runInstall⟩ s calls,
      LikeWith ⟨st, .new command runInstall⟩ e := by
  refine ActionOf.forall_mem_serve (fun g => g.unused = ⟨st, .new command runInstall⟩)
    (LikeWith ⟨st, .new command runInstall⟩) ?_ ?_ rfl s calls
  · intro q g s hg
    rw [← hg]
    exact q.retains_answer g s
  · intro q g s hg
    rw [← hg]
    exact likeWith_unused q g s

end Generator

/-- However often a generator or a reconciler was called before, with whatever requests, outcomes
and edits in between, each call comes to what it comes to in the same session with one that was not:
the same result, files and calls of the package manager, and, wherever the reconciler was called,
the same memory of what was added and of what went wrong. -/
theorem reused_like_new (st : Settings) (command : List Text) (runInstall : Bool) (s : Session) :
    (∀ calls, ∀ e ∈ serve Generator.Request.answer ⟨st, .new command runInstall⟩ s calls,
        Generator.LikeWith ⟨st, .new command runInstall⟩ e) ∧
      ∀ calls, ∀ e ∈ serve Reconciler.Request.answer (.new command runInstall) s calls,
        Reconciler.LikeWith (.new command runInstall) e :=
  ⟨Generator.serve_like_new st command runInstall s,
    Reconciler.serve_like_new command runInstall s⟩

end DashboardKit
