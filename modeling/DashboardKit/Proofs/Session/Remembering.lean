import DashboardKit.Manifest.Reconciler
import DashboardKit.Proofs.Session.Outcome

/-!
# Objects that remember

An object answers requests one after the other.  What it remembers goes from one answer to the next,
whatever came of it, and so does the session, which may be edited in between.  What every answer
retains of the memory holds of it all the time.

Main statement: `forall_mem_serve`.
-/

set_option autoImplicit false

namespace DashboardKit.ActionOf

variable {α β σ τ ρ : Type} {part : σ → τ}

/-! ## What actions retain -/

/-- A part of what is remembered is the same before and after the action, whatever comes of it. -/
def Retains (part : σ → τ) (a : ActionOf σ α) : Prop :=
  ∀ m s, part (a.outcome m s).2.1 = part m

theorem retains_pure (a : α) : (pure a : ActionOf σ α).Retains part := fun _ _ => rfl

theorem retains_throw (f : Failure) : (throw f : ActionOf σ α).Retains part := fun _ _ => rfl

theorem retains_lift (a : Action α) : (lift a : ActionOf σ α).Retains part := fun _ _ => rfl

theorem retains_memory : (memory : ActionOf σ σ).Retains part := fun _ _ => rfl

theorem retains_remember {g : σ → σ} (h : ∀ m, part (g m) = part m) :
    (remember g).Retains part := fun m _ => h m

theorem Retains.bind {a : ActionOf σ α} {f : α → ActionOf σ β} (ha : a.Retains part)
    (hf : ∀ x, (f x).Retains part) : (a >>= f).Retains part := by
  intro m s
  have hm := ha m s
  rw [outcome_bind]
  rcases hrun : a.outcome m s with ⟨e | x, m', s'⟩ <;> rw [hrun] at hm
  · exact hm
  · exact (hf x m' s').trans hm

theorem Retains.tryCatch {a : ActionOf σ α} {f : Failure → ActionOf σ α} (ha : a.Retains part)
    (hf : ∀ e, (f e).Retains part) : (tryCatch a f).Retains part := by
  intro m s
  have hm := ha m s
  rw [outcome_tryCatch]
  rcases hrun : a.outcome m s with ⟨e | x, m', s'⟩ <;> rw [hrun] at hm
  · exact (hf e m' s').trans hm
  · exact hm

/-! ## Requests one after the other -/

/-- A request, and what happens to the files and everything else before it is made. -/
structure Call (ρ : Type) where
  edit : Session → Session
  request : ρ

/-- A request that was answered. -/
structure Served (ρ σ α : Type) where
  request : ρ
  /-- the session that the request was made in -/
  before : Session
  /-- the answer, what is remembered after it, and the session after it -/
  outcome : Except Failure α × σ × Session

/-- Answers requests one after the other. -/
def serve (answer : ρ → ActionOf σ α) : σ → Session → List (Call ρ) → List (Served ρ σ α)
  | _, _, [] => []
  | m, s, call :: calls =>
    let outcome := (answer call.request).outcome m (call.edit s)
    ⟨call.request, call.edit s, outcome⟩ :: serve answer outcome.2.1 outcome.2.2 calls

/-- What holds of an answer because of what is remembered holds of all, if each answer keeps it
remembered. -/
theorem forall_mem_serve {answer : ρ → ActionOf σ α} (Remembers : σ → Prop)
    (Holds : Served ρ σ α → Prop)
    (hkeeps : ∀ q m s, Remembers m → Remembers ((answer q).outcome m s).2.1)
    (hholds : ∀ q m s, Remembers m → Holds ⟨q, s, (answer q).outcome m s⟩)
    {m : σ} (hm : Remembers m) (s : Session) (calls : List (Call ρ)) :
    ∀ e ∈ serve answer m s calls, Holds e := by
  induction calls generalizing m s with
  | nil => exact fun e he => absurd he List.not_mem_nil
  | cons call calls ih =>
    intro e he
    rcases List.mem_cons.1 he with rfl | he
    · exact hholds call.request m (call.edit s) hm
    · exact ih (hkeeps call.request m (call.edit s) hm) _ e he

end DashboardKit.ActionOf
