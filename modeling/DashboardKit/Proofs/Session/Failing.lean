import DashboardKit.Proofs.Session.Outcome

/-!
# What actions fail with

A property of failures holds of whatever a sequence fails with if it holds of what its parts fail
with; a handler replaces what it catches.  With these laws it is settled, action by action, that
what reads and writes files fails only with failures of this work: a failure of an artifact is made
by nothing but `Artifact.writing`, and one of the input of the user only where input is taken.

Main statements: `Action.FailsWith.bind` and `Action.FailsWith.tryCatch`.
-/

set_option autoImplicit false

namespace DashboardKit

variable {α β ε : Type} {P : Failure → Prop}

/-- The failure is none of writing an artifact. -/
def Failure.NoArtifact (f : Failure) : Prop := ∀ key path fault, f ≠ .artifact key path fault

/-- Whether the failure is one of the input of the user: of the config, of the kind of component, or
of the answer to a question. -/
def Failure.isInput : Failure → Bool
  | .configNotFound _ => true
  | .configInvalid _ _ => true
  | .configMissingField _ _ => true
  | .unknownKind _ => true
  | .interrupted => true
  | .noAnswer => true
  | _ => false

/-- The failure is none of the input of the user. -/
def Failure.NoInput (f : Failure) : Prop := f.isInput = false

/-- The failure is one of the work on files, texts and packages. -/
structure Failure.OfWork (f : Failure) : Prop where
  noArtifact : f.NoArtifact
  noInput : f.NoInput

namespace Action

/-- Whatever the action fails with has a property. -/
def FailsWith (P : Failure → Prop) (a : Action α) : Prop :=
  ∀ s f s', a.outcome s = (.error f, s') → P f

theorem failsWith_pure (x : α) : (pure x : Action α).FailsWith P := by
  intro s f s' hrun
  cases hrun

theorem failsWith_throw {f : Failure} (h : P f) : (throw f : Action α).FailsWith P := by
  intro s f' s' hrun
  cases hrun
  exact h

theorem failsWith_get : (get : Action Session).FailsWith P := by
  intro s f s' hrun
  cases hrun

theorem failsWith_set (s₁ : Session) : (set s₁ : Action Unit).FailsWith P := by
  intro s f s' hrun
  cases hrun

theorem failsWith_modify (g : Session → Session) : (modify g : Action Unit).FailsWith P := by
  intro s f s' hrun
  cases hrun

theorem failsWith_ofExcept {failure : ε → Failure} (h : ∀ e, P (failure e)) (x : Except ε α) :
    (ofExcept failure x).FailsWith P := by
  cases x with
  | error e => exact failsWith_throw (h e)
  | ok a => exact failsWith_pure a

theorem FailsWith.bind {a : Action α} {f : α → Action β} (ha : a.FailsWith P)
    (hf : ∀ x, (f x).FailsWith P) : (a >>= f).FailsWith P := by
  intro s e s' hrun
  rcases outcome_bind_eq_error.1 hrun with hfirst | ⟨x, mid, -, hsecond⟩
  · exact ha s e s' hfirst
  · exact hf x mid e s' hsecond

/-- A handler has to cope only with what can be thrown. -/
theorem FailsWith.tryCatch {Q : Failure → Prop} {a : Action α} {handler : Failure → Action α}
    (ha : a.FailsWith Q) (h : ∀ f, Q f → (handler f).FailsWith P) :
    (tryCatch a handler).FailsWith P := by
  intro s e s' hrun
  rw [outcome_tryCatch] at hrun
  rcases hfirst : a.outcome s with ⟨f | x, mid⟩ <;> rw [hfirst] at hrun
  · exact h f (ha s f mid hfirst) mid e s' hrun
  · cases hrun

theorem failsWith_forM {l : List β} {f : β → Action Unit} (h : ∀ x, (f x).FailsWith P) :
    (l.forM f).FailsWith P := by
  induction l with
  | nil => exact failsWith_pure ()
  | cons x l ih => exact (h x).bind fun _ => ih

theorem failsWith_mapM {γ : Type} {l : List β} {f : β → Action γ} (h : ∀ x, (f x).FailsWith P) :
    (l.mapM f).FailsWith P := by
  induction l with
  | nil => exact failsWith_pure []
  | cons x l ih =>
    rw [List.mapM_cons]
    exact (h x).bind fun _ => ih.bind fun _ => failsWith_pure _

theorem failsWith_foldlM {l : List β} {f : α → β → Action α} (h : ∀ a x, (f a x).FailsWith P)
    {a : α} : (l.foldlM f a).FailsWith P := by
  intro s e s' hrun
  obtain ⟨before, x, after, b, mid, -, -, hfails⟩ := outcome_foldlM_eq_error hrun
  exact h b x mid e s' hfails

theorem FailsWith.mono {Q : Failure → Prop} {a : Action α} (h : a.FailsWith Q)
    (hsub : ∀ f, Q f → P f) : a.FailsWith P := fun s f s' hrun => hsub f (h s f s' hrun)

/-! ## Printing -/

theorem failsWith_print (t : Text) : (print t).FailsWith P := failsWith_modify _

theorem failsWith_shownMarkup (t : Text) : (shownMarkup t).FailsWith Failure.OfWork :=
  failsWith_ofExcept (fun _ => ⟨nofun, rfl⟩) _

theorem failsWith_printMarkup (t : Text) : (printMarkup t).FailsWith Failure.OfWork :=
  (failsWith_shownMarkup t).bind fun _ => failsWith_print _

theorem failsWith_printSummary (title : Text) (rows : List (Text × Text)) :
    (printSummary title rows).FailsWith Failure.OfWork := by
  have hcells (row : List Text) : (row.mapM shownMarkup).FailsWith Failure.OfWork :=
    failsWith_mapM failsWith_shownMarkup
  have htable (columns : List Text) (rows : List (List Text)) :
      (printTable title columns rows).FailsWith Failure.OfWork :=
    (failsWith_mapM hcells).bind fun _ => failsWith_modify _
  exact (htable _ _).bind fun _ => failsWith_print []

/-! ## Files -/

/-- The failure says why a name cannot be handed to the system. -/
def OfName (f : Failure) : Prop := (∃ name fault, f = .unencodable name fault) ∨ f = .nulInPath

theorem OfName.ofWork {f : Failure} (h : OfName f) : f.OfWork := by
  rcases h with ⟨name, fault, rfl⟩ | rfl <;> exact ⟨nofun, rfl⟩

theorem failsWith_checkName (name : Text) : (checkName name).FailsWith OfName := by
  unfold checkName
  split
  · exact failsWith_throw (.inl ⟨_, _, rfl⟩)
  · split
    · exact failsWith_throw (.inr rfl)
    · exact failsWith_pure ()

theorem failsWith_checkPath (p : Path) : (checkPath p).FailsWith OfName :=
  failsWith_checkName p.text

theorem failsWith_readFile (p : Path) : (readFile p).FailsWith Failure.OfWork :=
  ((failsWith_checkPath p).mono fun _ => OfName.ofWork).bind fun _ =>
    failsWith_get.bind fun _ => failsWith_ofExcept (fun _ => ⟨nofun, rfl⟩) _

theorem failsWith_loadJson (p : Path) : (loadJson p).FailsWith Failure.OfWork := by
  have htext : (readText p).FailsWith Failure.OfWork :=
    (failsWith_readFile p).bind fun _ => failsWith_ofExcept (fun _ => ⟨nofun, rfl⟩) _
  refine htext.bind fun _ => failsWith_ofExcept (fun e => ?_) _
  cases e <;> exact ⟨nofun, rfl⟩

theorem failsWith_makeDirs (p : Path) : (makeDirs p).FailsWith Failure.OfWork :=
  ((failsWith_checkPath p).mono fun _ => OfName.ofWork).bind fun _ =>
    failsWith_get.bind fun _ => (failsWith_set _).bind fun _ =>
      failsWith_ofExcept (fun _ => ⟨nofun, rfl⟩) _

theorem failsWith_checkSteps (anchor : Anchor) (front segments : List Text) :
    (checkSteps anchor front segments).FailsWith OfName := by
  induction segments generalizing front with
  | nil => exact failsWith_pure ()
  | cons s rest ih =>
    unfold checkSteps
    split
    · exact ih _
    · exact (failsWith_checkPath _).bind fun _ => ih _

theorem failsWith_resolve (p : Path) : (resolve p).FailsWith OfName :=
  (failsWith_checkSteps _ _ _).bind fun _ => failsWith_get.bind fun _ => failsWith_pure _

theorem failsWith_ensureDir (p : Path) : (ensureDir p).FailsWith Failure.OfWork :=
  (failsWith_makeDirs p).bind fun _ => (failsWith_resolve p).mono fun _ => OfName.ofWork

theorem failsWith_writeFile (p : Path) (octets : Utf8.Octets) :
    (writeFile p octets).FailsWith Failure.OfWork := by
  have hput (octets : Utf8.Octets) : (putFile p octets).FailsWith Failure.OfWork :=
    failsWith_get.bind fun _ => (failsWith_ofExcept (fun _ => ⟨nofun, rfl⟩) _).bind fun _ =>
      failsWith_set _
  refine ((failsWith_checkPath p).mono fun _ => OfName.ofWork).bind fun _ =>
    failsWith_get.bind fun s => ?_
  split
  · exact hput octets
  · exact failsWith_throw ⟨nofun, rfl⟩
  · exact (hput _).bind fun _ => failsWith_throw ⟨nofun, rfl⟩

theorem failsWith_writeText (p : Path) (t : Text) :
    (writeText p t).FailsWith Failure.OfWork := by
  unfold writeText
  split
  · exact failsWith_writeFile p _
  · exact (failsWith_writeFile p _).bind fun _ => failsWith_throw ⟨nofun, rfl⟩

theorem failsWith_saveJson (v : Value) (p : Path) :
    (saveJson v p).FailsWith Failure.OfWork := by
  refine (failsWith_makeDirs _).bind fun _ => FailsWith.bind ?_ fun t => failsWith_writeText p t
  refine failsWith_ofExcept (fun e => ?_) _
  cases e <;> exact ⟨nofun, rfl⟩

end Action

/-! ## Actions that remember -/

namespace ActionOf

variable {σ : Type}

/-- Whatever the action fails with has a property. -/
def FailsWith (P : Failure → Prop) (a : ActionOf σ α) : Prop :=
  ∀ m s f m' s', a.outcome m s = (.error f, m', s') → P f

theorem failsWith_pure (x : α) : (pure x : ActionOf σ α).FailsWith P := by
  intro m s f m' s' hrun
  cases hrun

theorem failsWith_throw {f : Failure} (h : P f) : (throw f : ActionOf σ α).FailsWith P := by
  intro m s f' m' s' hrun
  cases hrun
  exact h

theorem failsWith_memory : (memory : ActionOf σ σ).FailsWith P := by
  intro m s f m' s' hrun
  cases hrun

theorem failsWith_remember (g : σ → σ) : (remember g).FailsWith P := by
  intro m s f m' s' hrun
  cases hrun

theorem failsWith_lift {a : Action α} (h : a.FailsWith P) :
    (lift a : ActionOf σ α).FailsWith P := by
  intro m s f m' s' hrun
  rw [outcome_lift, Prod.mk.injEq, Prod.mk.injEq] at hrun
  exact h s f s' (Prod.ext hrun.1 hrun.2.2)

theorem FailsWith.bind {a : ActionOf σ α} {f : α → ActionOf σ β} (ha : a.FailsWith P)
    (hf : ∀ x, (f x).FailsWith P) : (a >>= f).FailsWith P := by
  intro m s e m' s' hrun
  rw [outcome_bind] at hrun
  rcases hfirst : a.outcome m s with ⟨e₁ | x, m₁, s₁⟩ <;> rw [hfirst] at hrun
  · cases hrun
    exact ha m s e m' s' hfirst
  · exact hf x m₁ s₁ e m' s' hrun

/-- A handler has to cope only with what can be thrown. -/
theorem FailsWith.tryCatch {Q : Failure → Prop} {a : ActionOf σ α}
    {handler : Failure → ActionOf σ α}
    (ha : a.FailsWith Q) (h : ∀ f, Q f → (handler f).FailsWith P) :
    (tryCatch a handler).FailsWith P := by
  intro m s e m' s' hrun
  rw [outcome_tryCatch] at hrun
  rcases hfirst : a.outcome m s with ⟨f | x, m₁, s₁⟩ <;> rw [hfirst] at hrun
  · exact h f (ha m s f m₁ s₁ hfirst) m₁ s₁ e m' s' hrun
  · cases hrun

end ActionOf

end DashboardKit
