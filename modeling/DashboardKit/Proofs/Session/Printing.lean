import DashboardKit.Proofs.Console.Markup
import DashboardKit.Proofs.Session.Frame

/-!
# Printing does not fail

Lines without markup, headings, warnings and errors are printed whatever they say, and so are the
values of a summary; of the session they change the events.

Main statements: `succeeds_printWarning`, `succeeds_printError` and `succeeds_printSummary`.
-/

set_option autoImplicit false

namespace DashboardKit.Action

open Session

variable {α β : Type} {a : Action α}

/-- The action comes to a result in every session. -/
def Succeeds (a : Action α) : Prop := ∀ s, ∃ x s', a.outcome s = (.ok x, s')

theorem succeeds_pure (x : α) : (pure x : Action α).Succeeds := fun s => ⟨x, s, rfl⟩

theorem Succeeds.bind {f : α → Action β} (ha : a.Succeeds) (hf : ∀ x, (f x).Succeeds) :
    (a >>= f).Succeeds := by
  intro s
  obtain ⟨x, mid, hx⟩ := ha s
  obtain ⟨y, s', hy⟩ := hf x mid
  exact ⟨y, s', outcome_bind_eq_ok.2 ⟨x, mid, hx, hy⟩⟩

theorem succeeds_forM {l : List β} {f : β → Action Unit} (hf : ∀ x, (f x).Succeeds) :
    (l.forM f).Succeeds := by
  induction l with
  | nil => exact succeeds_pure ()
  | cons x l ih => exact (hf x).bind fun _ => ih

theorem succeeds_mapM {γ : Type} {l : List β} {f : β → Action γ}
    (hf : ∀ x ∈ l, (f x).Succeeds) : (l.mapM f).Succeeds := by
  induction l with
  | nil => exact succeeds_pure []
  | cons x l ih =>
    rw [List.forall_mem_cons] at hf
    rw [List.mapM_cons]
    exact hf.1.bind fun _ => (ih hf.2).bind fun _ => succeeds_pure _

/-- An action that only prints and does not fail goes on in the same session but for its events. -/
theorem Succeeds.exists_outcome (ha : a.Succeeds) (hprints : a.Keeps PrintsTo) (s : Session) :
    ∃ x s', a.outcome s = (.ok x, s') ∧ PrintsTo s s' := by
  obtain ⟨x, s', hx⟩ := ha s
  exact ⟨x, s', hx, hprints.of_outcome hx⟩

theorem succeeds_print (t : Text) : (print t).Succeeds := fun _ => ⟨(), _, rfl⟩

theorem succeeds_shownMarkup {t : Text} (h : ∃ u, Markup.shown t = .ok u) :
    (shownMarkup t).Succeeds := by
  obtain ⟨u, hu⟩ := h
  unfold shownMarkup
  rw [hu]
  exact succeeds_pure u

/-- Markup is printed if it is shown. -/
theorem succeeds_printMarkup {t : Text} (h : ∃ u, Markup.shown t = .ok u) :
    (printMarkup t).Succeeds :=
  (succeeds_shownMarkup h).bind succeeds_print

/-- Text in a style is printed whatever it says. -/
theorem succeeds_printStyled {style name : Text} (h : Markup.IsStyle style name) (t : Text) :
    (printStyled style t).Succeeds :=
  succeeds_printMarkup (Markup.exists_shown_styled h t)

theorem isStyle_boldYellow : Markup.IsStyle "bold yellow" "bold yellow" where
  inTag := ⟨_, _, rfl, by decide, by decide⟩
  no_equals := by decide
  no_slash := by decide
  not_blank := by decide
  named := by decide +kernel

theorem isStyle_boldRed : Markup.IsStyle "bold red" "bold red" where
  inTag := ⟨_, _, rfl, by decide, by decide⟩
  no_equals := by decide
  no_slash := by decide
  not_blank := by decide
  named := by decide +kernel

theorem succeeds_printWarning (t : Text) : (printWarning t).Succeeds :=
  succeeds_printStyled isStyle_boldYellow t

theorem succeeds_printError (t : Text) : (printError t).Succeeds :=
  succeeds_printStyled isStyle_boldRed t

/-- A summary is printed whatever its labels stand for. -/
theorem succeeds_printSummary {rows : List (Text × Text)}
    (h : ∀ row ∈ rows, ∃ u, Markup.shown row.1 = .ok u) (title : Text) :
    (printSummary title rows).Succeeds := by
  refine Succeeds.bind ?_ fun _ => succeeds_print []
  refine Succeeds.bind ?_ fun cells _ => ⟨(), _, rfl⟩
  refine succeeds_mapM fun cells hcells => succeeds_mapM fun t ht => succeeds_shownMarkup ?_
  obtain ⟨row, hrow, rfl⟩ := List.mem_map.1 hcells
  simp only [List.mem_cons, List.not_mem_nil, or_false] at ht
  rcases ht with rfl | rfl
  · exact h row hrow
  · exact Markup.exists_shown_escape row.2

end DashboardKit.Action
