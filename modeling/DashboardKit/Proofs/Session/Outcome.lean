import DashboardKit.Manifest.Reconciler
import DashboardKit.Proofs.Except

/-!
# Outcomes of actions

An action is opened here once: what comes of a sequence, of a handler and of the primitive actions,
in terms of what comes of their parts.  Everything else about actions is derived from these laws.

Main statements: `Action.outcome_bind` and `ActionOf.outcome_bind`.
-/

set_option autoImplicit false

namespace DashboardKit

variable {α β ε : Type}

namespace Action

/-- An action is what comes of it in every session. -/
theorem eq_of_outcome {a b : Action α} (h : ∀ s, a.outcome s = b.outcome s) : a = b := funext h

@[simp] theorem outcome_pure (a : α) (s : Session) :
    (pure a : Action α).outcome s = (.ok a, s) := rfl

@[simp] theorem outcome_throw (f : Failure) (s : Session) :
    (throw f : Action α).outcome s = (.error f, s) := rfl

@[simp] theorem outcome_get (s : Session) : (get : Action Session).outcome s = (.ok s, s) := rfl

@[simp] theorem outcome_set (s' s : Session) :
    (set s' : Action Unit).outcome s = (.ok (), s') := rfl

@[simp] theorem outcome_modify (g : Session → Session) (s : Session) :
    (modify g : Action Unit).outcome s = (.ok (), g s) := rfl

/-- An outcome that is given does not touch the session. -/
@[simp] theorem outcome_ofExcept (failure : ε → Failure) (x : Except ε α) (s : Session) :
    (ofExcept failure x).outcome s = (x.mapError failure, s) := by
  cases x <;> rfl

theorem outcome_ofExcept_eq_ok {failure : ε → Failure} {x : Except ε α} {s s' : Session} {a : α} :
    (ofExcept failure x).outcome s = (.ok a, s') ↔ x = .ok a ∧ s' = s := by
  rw [outcome_ofExcept, Prod.mk.injEq, mapError_eq_ok, @eq_comm _ s]

theorem outcome_pure_eq_ok {a b : α} {s s' : Session} :
    (pure a : Action α).outcome s = (.ok b, s') ↔ b = a ∧ s' = s := by
  rw [outcome_pure, Prod.mk.injEq, Except.ok.injEq, eq_comm, @eq_comm _ s]

/-- The second of two actions runs where the first one stopped, unless that failed. -/
theorem outcome_bind (a : Action α) (f : α → Action β) (s : Session) :
    (a >>= f).outcome s =
      match a.outcome s with
      | (.ok x, s') => (f x).outcome s'
      | (.error e, s') => (.error e, s') := by
  simp only [outcome, bind, ExceptT.bind, ExceptT.bindCont, ExceptT.mk, ExceptT.run, StateT.bind,
    StateT.run]
  rcases a s with ⟨e | x, s'⟩ <;> rfl

/-- A handler runs where the action stopped, if that failed. -/
theorem outcome_tryCatch (a : Action α) (f : Failure → Action α) (s : Session) :
    (tryCatch a f).outcome s =
      match a.outcome s with
      | (.ok x, s') => (.ok x, s')
      | (.error e, s') => (f e).outcome s' := by
  simp only [outcome, tryCatch, tryCatchThe, MonadExceptOf.tryCatch, ExceptT.tryCatch, bind,
    ExceptT.mk, ExceptT.run, StateT.bind, StateT.run]
  rcases a s with ⟨e | x, s'⟩ <;> rfl

theorem outcome_bind_of_ok {a : Action α} {s s' : Session} {x : α}
    (h : a.outcome s = (.ok x, s')) (f : α → Action β) :
    (a >>= f).outcome s = (f x).outcome s' := by
  rw [outcome_bind, h]

theorem outcome_bind_of_error {a : Action α} {s s' : Session} {e : Failure}
    (h : a.outcome s = (.error e, s')) (f : α → Action β) :
    (a >>= f).outcome s = (.error e, s') := by
  rw [outcome_bind, h]

/-- A sequence succeeds exactly if both actions do. -/
theorem outcome_bind_eq_ok {a : Action α} {f : α → Action β} {s s' : Session} {y : β} :
    (a >>= f).outcome s = (.ok y, s') ↔
      ∃ x mid, a.outcome s = (.ok x, mid) ∧ (f x).outcome mid = (.ok y, s') := by
  rw [outcome_bind]
  cases h : a.outcome s with
  | mk r mid =>
    cases r with
    | error e => simp
    | ok x =>
      constructor
      · intro hf
        exact ⟨x, mid, rfl, hf⟩
      · rintro ⟨x', mid', heq, hf⟩
        cases heq
        exact hf

/-- A sequence fails exactly if its first action does, or goes on to the second, which does. -/
theorem outcome_bind_eq_error {a : Action α} {f : α → Action β} {s s' : Session} {e : Failure} :
    (a >>= f).outcome s = (.error e, s') ↔
      a.outcome s = (.error e, s') ∨
        ∃ x mid, a.outcome s = (.ok x, mid) ∧ (f x).outcome mid = (.error e, s') := by
  rw [outcome_bind]
  rcases h : a.outcome s with ⟨e' | x, mid⟩
  · simp
  · constructor
    · intro hf
      exact .inr ⟨x, mid, rfl, hf⟩
    · rintro (heq | ⟨x', mid', heq, hf⟩)
      · cases heq
      · cases heq
        exact hf

/-- Where going through a list fails, it fails at one of the members, those before it done. -/
theorem outcome_foldlM_eq_error {l : List β} {f : α → β → Action α} {a : α} {s s' : Session}
    {e : Failure} (h : (l.foldlM f a).outcome s = (.error e, s')) :
    ∃ before x after b mid, l = before ++ x :: after ∧
      (before.foldlM f a).outcome s = (.ok b, mid) ∧ (f b x).outcome mid = (.error e, s') := by
  induction l generalizing a s with
  | nil => cases h
  | cons y l ih =>
    rw [List.foldlM_cons, outcome_bind_eq_error] at h
    rcases h with hfirst | ⟨b, mid, hfirst, hrest⟩
    · exact ⟨[], y, l, a, s, rfl, rfl, hfirst⟩
    · obtain ⟨before, x, after, c, mid', rfl, hbefore, hfails⟩ := ih hrest
      refine ⟨y :: before, x, after, c, mid', rfl, ?_, hfails⟩
      rw [List.foldlM_cons, outcome_bind_of_ok hfirst]
      exact hbefore

/-- A handler that always fails lets only success through. -/
theorem outcome_tryCatch_eq_ok {a : Action α} {f : Failure → Action α} {s s' : Session} {x : α}
    (hf : ∀ e s₁ x' s₂, (f e).outcome s₁ ≠ (.ok x', s₂)) :
    (tryCatch a f).outcome s = (.ok x, s') ↔ a.outcome s = (.ok x, s') := by
  rw [outcome_tryCatch]
  rcases h : a.outcome s with ⟨e | y, mid⟩
  · simpa using hf e mid x s'
  · rfl

/-- Whatever an action gives has a property. -/
def Gives (P : α → Prop) (a : Action α) : Prop := ∀ s x s', a.outcome s = (.ok x, s') → P x

variable {P : α → Prop}

theorem gives_pure {a : α} (h : P a) : (pure a : Action α).Gives P := by
  intro s x s' hrun
  obtain ⟨rfl, -⟩ := outcome_pure_eq_ok.1 hrun
  exact h

theorem gives_throw (f : Failure) : (throw f : Action α).Gives P := by
  intro s x s' hrun
  simp at hrun

/-- What the second of two actions gives is all that counts. -/
theorem gives_bind {a : Action β} {f : β → Action α} (h : ∀ x, (f x).Gives P) :
    (a >>= f).Gives P := by
  intro s y s' hrun
  obtain ⟨x, mid, -, hy⟩ := outcome_bind_eq_ok.1 hrun
  exact h x mid y s' hy

/-- What is done first under a condition makes no difference to what is given. -/
theorem gives_after_if {c : Prop} [Decidable c] {a : Action β} {rest : Action α}
    (h : rest.Gives P) : (if c then a >>= fun _ => rest else rest).Gives P := by
  split
  · exact gives_bind fun _ => h
  · exact h

end Action

namespace ActionOf

variable {σ : Type}

@[simp] theorem outcome_pure (a : α) (m : σ) (s : Session) :
    (pure a : ActionOf σ α).outcome m s = (.ok a, m, s) := rfl

@[simp] theorem outcome_throw (f : Failure) (m : σ) (s : Session) :
    (throw f : ActionOf σ α).outcome m s = (.error f, m, s) := rfl

@[simp] theorem outcome_memory (m : σ) (s : Session) :
    (memory : ActionOf σ σ).outcome m s = (.ok m, m, s) := rfl

@[simp] theorem outcome_remember (g : σ → σ) (m : σ) (s : Session) :
    (remember g).outcome m s = (.ok (), g m, s) := rfl

/-- An action that is lifted leaves the memory alone. -/
@[simp] theorem outcome_lift (a : Action α) (m : σ) (s : Session) :
    (lift a : ActionOf σ α).outcome m s = ((a.outcome s).1, m, (a.outcome s).2) := rfl

/-- The second of two actions runs where the first one stopped, unless that failed. -/
theorem outcome_bind (a : ActionOf σ α) (f : α → ActionOf σ β) (m : σ) (s : Session) :
    (a >>= f).outcome m s =
      match a.outcome m s with
      | (.ok x, m', s') => (f x).outcome m' s'
      | (.error e, m', s') => (.error e, m', s') := by
  simp only [outcome, bind, ExceptT.bind, ExceptT.bindCont, ExceptT.mk, ExceptT.run, StateT.bind,
    StateT.run]
  rcases a m s with ⟨⟨e | x, m'⟩, s'⟩ <;> rfl

/-- A handler runs where the action stopped, if that failed. -/
theorem outcome_tryCatch (a : ActionOf σ α) (f : Failure → ActionOf σ α) (m : σ) (s : Session) :
    (tryCatch a f).outcome m s =
      match a.outcome m s with
      | (.ok x, m', s') => (.ok x, m', s')
      | (.error e, m', s') => (f e).outcome m' s' := by
  simp only [outcome, tryCatch, tryCatchThe, MonadExceptOf.tryCatch, ExceptT.tryCatch, bind,
    ExceptT.mk, ExceptT.run, StateT.bind, StateT.run]
  rcases a m s with ⟨⟨e | x, m'⟩, s'⟩ <;> rfl

/-- A sequence succeeds exactly if both actions do. -/
theorem outcome_bind_eq_ok {a : ActionOf σ α} {f : α → ActionOf σ β} {m m' : σ} {s s' : Session}
    {y : β} :
    (a >>= f).outcome m s = (.ok y, m', s') ↔
      ∃ x m₁ s₁, a.outcome m s = (.ok x, m₁, s₁) ∧ (f x).outcome m₁ s₁ = (.ok y, m', s') := by
  rw [outcome_bind]
  rcases h : a.outcome m s with ⟨e | x, m₁, s₁⟩
  · simp
  · constructor
    · intro hf
      exact ⟨x, m₁, s₁, rfl, hf⟩
    · rintro ⟨x', m₂, s₂, heq, hf⟩
      cases heq
      exact hf

/-- A lifted action succeeds exactly if the action does. -/
theorem outcome_lift_eq_ok {a : Action α} {m m' : σ} {s s' : Session} {y : α} :
    (lift a : ActionOf σ α).outcome m s = (.ok y, m', s') ↔
      a.outcome s = (.ok y, s') ∧ m' = m := by
  rw [outcome_lift, Prod.mk.injEq, Prod.mk.injEq, Prod.ext_iff]
  constructor
  · rintro ⟨hr, hm, hs⟩
    exact ⟨⟨hr, hs⟩, hm.symm⟩
  · rintro ⟨⟨hr, hs⟩, hm⟩
    exact ⟨hr, hm.symm, hs⟩

/-- What is told of a result tells that the action succeeds. -/
theorem exists_outcome_of_toOption_map {a : ActionOf σ α} {f : α → β} {b : β} {m : σ} {s : Session}
    (h : (a.outcome m s).1.toOption.map f = some b) :
    ∃ x m' s', a.outcome m s = (.ok x, m', s') ∧ f x = b := by
  obtain ⟨x, hx, hfx⟩ := exists_eq_ok_of_toOption_map h
  exact ⟨x, _, _, Prod.ext hx rfl, hfx⟩

end ActionOf

end DashboardKit
