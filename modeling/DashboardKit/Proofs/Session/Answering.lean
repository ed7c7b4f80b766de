import DashboardKit.Proofs.Session.Asking
import DashboardKit.Proofs.Session.Files

/-!
# Asking until an answer will do

A question is asked again after every answer that is refused.  So the first answer that is not
refused settles it: none is skipped or taken twice, and those behind it are left for the next
question.  Answers are judged by looking at files, which asking leaves as they are, so that the
verdict on an answer is the same whenever it is given.

Main statement: `outcome_askUntil_iff`.
-/

set_option autoImplicit false

namespace DashboardKit

open Session

variable {α β : Type} {s mid s' : Session} {r : Except Failure α} {t : Text}

namespace Session

/-- The session with some more shown. -/
def showing (s : Session) (events : List Event) : Session :=
  { s with events := s.events ++ events }

/-- The session with some more shown and these answers left. -/
def asked (s : Session) (events : List Event) (left : List (Option Text)) : Session :=
  { s with events := s.events ++ events, answers := left }

theorem asksTo_asked (s : Session) (events : List Event) (left : List (Option Text)) :
    AsksTo s (s.asked events left) := rfl

theorem showing_showing (s : Session) (events events' : List Event) :
    (s.showing events).showing events' = s.showing (events ++ events') := by
  rw [showing, showing, showing, List.append_assoc]

theorem asked_asked (s : Session) (events events' : List Event) (left left' : List (Option Text)) :
    (s.asked events left).asked events' left' = s.asked (events ++ events') left' := by
  rw [asked, asked, asked, List.append_assoc]

end Session

namespace Action

/-! ## Actions that only look -/

/-- The action changes nothing, and what comes of it depends neither on what was shown nor on the
answers that are left. -/
def Looks (a : Action α) : Prop := ∀ s mid, AsksTo s mid → a.outcome mid = ((a.outcome s).1, mid)

theorem looks_pure (a : α) : (pure a : Action α).Looks := fun _ _ _ => rfl

theorem looks_throw (f : Failure) : (throw f : Action α).Looks := fun _ _ _ => rfl

theorem looks_ofExcept {ε : Type} (failure : ε → Failure) (x : Except ε α) :
    (ofExcept failure x).Looks := by
  intro s mid _
  rw [outcome_ofExcept, outcome_ofExcept]

theorem Looks.bind {a : Action α} {f : α → Action β} (ha : a.Looks) (hf : ∀ x, (f x).Looks) :
    (a >>= f).Looks := by
  intro s mid hasks
  have hleft : a.outcome s = ((a.outcome s).1, s) := ha s s (refl_of AsksTo s)
  rw [outcome_bind, outcome_bind, ha s mid hasks, hleft]
  cases (a.outcome s).1 with
  | error f => rfl
  | ok x => exact hf x s mid hasks

/-- What is done with a session may depend on all but what was shown and the answers. -/
theorem looks_get_bind {f : Session → Action α} (hsame : ∀ s mid, AsksTo s mid → f mid = f s)
    (hf : ∀ s, (f s).Looks) : (get >>= f).Looks := by
  intro s mid hasks
  rw [outcome_bind_of_ok (outcome_get mid), outcome_bind_of_ok (outcome_get s), hsame s mid hasks]
  exact hf s s mid hasks

theorem looks_checkName (name : Text) : (checkName name).Looks := by
  unfold checkName
  split
  · exact looks_throw _
  · split
    · exact looks_throw _
    · exact looks_pure _

theorem looks_checkSteps (anchor : Anchor) (front segments : List Text) :
    (checkSteps anchor front segments).Looks := by
  induction segments generalizing front with
  | nil => exact looks_pure ()
  | cons s rest ih =>
    unfold checkSteps
    split
    · exact ih _
    · exact (looks_checkName _).bind fun _ => ih _

theorem looks_resolve (p : Path) : (resolve p).Looks := by
  refine (looks_checkSteps _ _ _).bind fun _ => looks_get_bind ?_ fun _ => looks_pure _
  intro s mid hasks
  rw [hasks]

theorem looks_isFile (p : Path) : (isFile p).Looks := by
  unfold isFile
  split
  · refine looks_get_bind ?_ fun _ => looks_ofExcept _ _
    intro s mid hasks
    rw [hasks]
  · exact looks_pure false

theorem looks_homeText (home? : Option Text) : (homeText home?).Looks := by
  unfold homeText
  split
  · exact looks_throw _
  · dsimp only
    split
    · exact looks_throw _
    · exact looks_pure _

theorem looks_homeOf (segment : Text) : (homeOf segment).Looks := by
  refine looks_get_bind ?_ fun s => ?_
  · intro s mid hasks
    rw [hasks]
    rfl
  · split
    · exact looks_homeText _
    · exact (looks_checkName _).bind fun _ => looks_homeText _

theorem looks_expandHome (p : Path) : (expandHome p).Looks := by
  unfold expandHome
  split
  · split
    · exact (looks_homeOf _).bind fun _ => looks_pure _
    · exact looks_pure _
  · exact looks_pure _

/-! ## Questions and lines -/

theorem outcome_ask_of_nil (h : s.answers = []) (prompt : Text) :
    (ask prompt).outcome s
      = (.error .noAnswer, s.asked [.question (prompt ++ (": " : Text))] []) := by
  unfold ask emit
  rw [outcome_bind_of_ok (outcome_modify _ s), outcome_bind_of_ok (outcome_get _)]
  simp only [h, outcome_throw, asked]

/-- A question takes the first of the answers. -/
theorem outcome_ask_of_cons {answer : Option Text} {left : List (Option Text)}
    (h : s.answers = answer :: left) (prompt : Text) :
    (ask prompt).outcome s =
      (match answer with
        | none => .error .interrupted
        | some t => .ok (Text.trim CodePoint.isBlank t),
        s.asked [.question (prompt ++ (": " : Text))] left) := by
  unfold ask emit
  rw [outcome_bind_of_ok (outcome_modify _ s), outcome_bind_of_ok (outcome_get _)]
  simp only [h]
  rw [outcome_bind_of_ok (outcome_set _ _)]
  cases answer <;> rfl

/-- Markup that is shown is one more line. -/
theorem outcome_printMarkup {u : Text} (h : Markup.shown t = .ok u) (s : Session) :
    (printMarkup t).outcome s = (.ok (), s.showing [.line u]) := by
  have hshown : (shownMarkup t).outcome s = (.ok u, s) := by
    rw [shownMarkup, outcome_ofExcept, h]
    rfl
  exact outcome_bind_of_ok hshown _

theorem outcome_forM_printMarkup {l : List β} {f g : β → Text}
    (h : ∀ x ∈ l, Markup.shown (f x) = .ok (g x)) (s : Session) :
    (l.forM fun x => printMarkup (f x)).outcome s
      = (.ok (), s.showing (l.map fun x => .line (g x))) := by
  induction l generalizing s with
  | nil =>
    rw [List.map_nil, showing, List.append_nil]
    rfl
  | cons x l ih =>
    rw [List.forall_mem_cons] at h
    refine (outcome_bind_of_ok (outcome_printMarkup h.1 s) _).trans ((ih h.2 _).trans ?_)
    rw [showing_showing]
    rfl

end Action

namespace Prompt

open DashboardKit.Action

/-! ## Asking until an answer will do -/

/-- What an answer comes to. -/
inductive Verdict (α : Type) where
  /-- it will do -/
  | taken (a : α)
  /-- it will not, and this is what the user is told -/
  | refused (line : Text)
  /-- it cannot be looked at -/
  | failed (f : Failure)

/-- Asks a question until an answer is taken.  An answer is judged by what it gives, or by markup to
print if it will not do. -/
def askUntil (prompt : Text) (judge : Text → Action (Except Text α)) : (bound : Nat) → Action α
  | 0 => throw .noAnswer
  | bound + 1 => do
    let answer ← Action.ask prompt
    match ← judge answer with
    | .ok a => return a
    | .error problem =>
      Action.printMarkup problem
      askUntil prompt judge bound

/-- The verdict that a judgement comes to. -/
inductive ComesTo : Except Failure (Except Text α) → Verdict α → Prop where
  | taken {a : α} : ComesTo (.ok (.ok a)) (.taken a)
  | refused {problem line : Text} (h : Markup.shown problem = .ok line) :
      ComesTo (.ok (.error problem)) (.refused line)
  | failed {f : Failure} : ComesTo (.error f) (.failed f)

/-- Every answer has a verdict, and judging it comes to this verdict and changes nothing. -/
structure Judges (judge : Text → Action (Except Text α)) (verdict : Text → Verdict α → Prop)
    (s : Session) : Prop where
  looks : ∀ t, (judge t).Looks
  comesTo : ∀ t v, verdict t v → ComesTo ((judge t).outcome s).1 v
  total : ∀ t, ∃ v, verdict t v

variable {judge : Text → Action (Except Text α)} {verdict : Text → Verdict α → Prop}
  {prompt line : Text} {bound : Nat} {left : List (Option Text)}

/-- Asking on makes no difference to the verdicts. -/
theorem Judges.mono (h : Judges judge verdict s) (hasks : AsksTo s mid) :
    Judges judge verdict mid where
  looks := h.looks
  comesTo t v hv := by
    rw [h.looks t s mid hasks]
    exact h.comesTo t v hv
  total := h.total

/-- An answer is judged in the session in which it has been taken. -/
theorem Judges.outcome_ask {v : Verdict α} (h : Judges judge verdict s)
    (hanswers : s.answers = some t :: left) (hv : verdict (Text.trim CodePoint.isBlank t) v) :
    ∃ x, ComesTo x v ∧ (Action.ask prompt >>= judge).outcome s
      = (x, s.asked [.question (prompt ++ (": " : Text))] left) := by
  refine ⟨_, h.comesTo _ v hv, ?_⟩
  rw [outcome_bind_of_ok (outcome_ask_of_cons hanswers prompt)]
  exact h.looks _ s _ rfl

/-- A question is asked, the answer is judged, and what is done then depends on this alone. -/
theorem askUntil_succ (prompt : Text) (judge : Text → Action (Except Text α)) (bound : Nat) :
    askUntil prompt judge (bound + 1) = (Action.ask prompt >>= judge) >>= (fun
      | .ok a => pure a
      | .error problem => Action.printMarkup problem >>= fun _ => askUntil prompt judge bound) := by
  rw [bind_assoc]
  rfl

/-- How a question is settled: by the first of the answers that are left, or by there being none. -/
inductive Settles (verdict : Text → Verdict α → Prop) :
    List (Option Text) → Except Failure α → List (Option Text) → Prop where
  | taken {t : Text} {a : α} {left : List (Option Text)}
      (h : verdict (Text.trim CodePoint.isBlank t) (.taken a)) :
      Settles verdict (some t :: left) (.ok a) left
  | failed {t : Text} {f : Failure} {left : List (Option Text)}
      (h : verdict (Text.trim CodePoint.isBlank t) (.failed f)) :
      Settles verdict (some t :: left) (.error f) left
  /-- the user breaks off -/
  | brokenOff {left : List (Option Text)} :
      Settles verdict (none :: left) (.error .interrupted) left
  /-- nothing is typed any more -/
  | exhausted : Settles verdict [] (.error .noAnswer) []

/-- An answer that was refused and what the user was told about it. -/
structure Refusal where
  answer : Text
  line : Text

/-- What is shown while a question is asked: it comes again after every refusal. -/
def talk (prompt : Text) (refusals : List Refusal) : List Event :=
  (refusals.flatMap fun e => [.question (prompt ++ (": " : Text)), .line e.line])
    ++ [.question (prompt ++ (": " : Text))]

/-- How a question is asked and answered.  First come answers that are refused, and then the one, if
there is any, that settles the question; no other answers are taken. -/
def Asks (prompt : Text) (verdict : Text → Verdict α → Prop) (s : Session) (r : Except Failure α)
    (s' : Session) : Prop :=
  ∃ (refusals : List Refusal) (next left : List (Option Text)),
    s.answers = refusals.map (fun e => some e.answer) ++ next ∧
    (∀ e ∈ refusals, verdict (Text.trim CodePoint.isBlank e.answer) (.refused e.line)) ∧
    Settles verdict next r left ∧ s' = s.asked (talk prompt refusals) left

/-- A question is asked once if the first answer settles it. -/
theorem outcome_askUntil_of_settles (h : Judges judge verdict s)
    (hsettles : Settles verdict s.answers r left) :
    (askUntil prompt judge (bound + 1)).outcome s
      = (r, s.asked [.question (prompt ++ (": " : Text))] left) := by
  generalize hanswers : s.answers = answers at hsettles
  rw [askUntil_succ]
  cases hsettles with
  | taken hv =>
    obtain ⟨x, hcomes, hjudge⟩ := h.outcome_ask hanswers hv
    cases hcomes
    exact outcome_bind_of_ok hjudge _
  | failed hv =>
    obtain ⟨x, hcomes, hjudge⟩ := h.outcome_ask hanswers hv
    cases hcomes
    exact outcome_bind_of_error hjudge _
  | brokenOff =>
    exact outcome_bind_of_error (outcome_bind_of_error (outcome_ask_of_cons hanswers prompt) _) _
  | exhausted =>
    exact outcome_bind_of_error (outcome_bind_of_error (outcome_ask_of_nil hanswers prompt) _) _

/-- After a refusal the question is asked again, with the answers behind the refused one. -/
theorem outcome_askUntil_of_refused (h : Judges judge verdict s)
    (hanswers : s.answers = some t :: left)
    (hrefused : verdict (Text.trim CodePoint.isBlank t) (.refused line)) :
    (askUntil prompt judge (bound + 1)).outcome s = (askUntil prompt judge bound).outcome
      (s.asked [.question (prompt ++ (": " : Text)), .line line] left) := by
  obtain ⟨x, hcomes, hjudge⟩ := h.outcome_ask hanswers hrefused
  cases hcomes with
  | refused hline =>
    rw [askUntil_succ, outcome_bind_of_ok hjudge]
    refine (outcome_bind_of_ok (outcome_printMarkup hline _) _).trans ?_
    rw [showing, asked, asked, List.append_assoc]
    rfl

/-- A question is asked in this way whenever there are enough rounds for the answers. -/
theorem Asks.outcome_askUntil (hasked : Asks prompt verdict s r s') (h : Judges judge verdict s)
    (hbound : s.answers.length < bound) :
    (askUntil prompt judge bound).outcome s = (r, s') := by
  obtain ⟨refusals, next, left, hanswers, hrefused, hsettles, rfl⟩ := hasked
  induction refusals generalizing s bound with
  | nil =>
    obtain ⟨bound, rfl⟩ := Nat.exists_eq_succ_of_ne_zero (Nat.ne_zero_of_lt hbound)
    rw [List.map_nil, List.nil_append] at hanswers
    exact outcome_askUntil_of_settles h (hanswers ▸ hsettles)
  | cons e refusals ih =>
    obtain ⟨bound, rfl⟩ := Nat.exists_eq_succ_of_ne_zero (Nat.ne_zero_of_lt hbound)
    rw [List.forall_mem_cons] at hrefused
    rw [List.map_cons, List.cons_append] at hanswers
    rw [hanswers, List.length_cons] at hbound
    rw [outcome_askUntil_of_refused h hanswers hrefused.1]
    rw [ih (h.mono (asksTo_asked s _ _)) (Nat.lt_of_succ_lt_succ hbound) rfl hrefused.2,
      asked_asked]
    rfl

/-- Any answers settle a question. -/
theorem exists_settles (htotal : ∀ t, ∃ v, verdict t v) (answers : List (Option Text)) :
    ∃ (refusals : List Refusal) (next left : List (Option Text)) (r : Except Failure α),
      answers = refusals.map (fun e => some e.answer) ++ next ∧
      (∀ e ∈ refusals, verdict (Text.trim CodePoint.isBlank e.answer) (.refused e.line)) ∧
      Settles verdict next r left := by
  induction answers with
  | nil => exact ⟨[], [], [], _, rfl, List.forall_mem_nil _, .exhausted⟩
  | cons answer answers ih =>
    cases answer with
    | none => exact ⟨[], _, answers, _, rfl, List.forall_mem_nil _, .brokenOff⟩
    | some t =>
      obtain ⟨v, hv⟩ := htotal (Text.trim CodePoint.isBlank t)
      cases v with
      | taken a => exact ⟨[], _, answers, _, rfl, List.forall_mem_nil _, .taken hv⟩
      | failed f => exact ⟨[], _, answers, _, rfl, List.forall_mem_nil _, .failed hv⟩
      | refused line =>
        obtain ⟨refusals, next, left, r, rfl, hrefused, hsettles⟩ := ih
        exact ⟨⟨t, line⟩ :: refusals, next, left, r, rfl,
          List.forall_mem_cons.2 ⟨hv, hrefused⟩, hsettles⟩

/-- What comes of asking is how the question is asked and answered. -/
theorem outcome_askUntil_iff (h : Judges judge verdict s) (hbound : s.answers.length < bound) :
    (askUntil prompt judge bound).outcome s = (r, s') ↔ Asks prompt verdict s r s' := by
  constructor
  · intro hrun
    obtain ⟨refusals, next, left, r', hanswers, hrefused, hsettles⟩ :=
      exists_settles h.total s.answers
    have hasked : Asks prompt verdict s r' (s.asked (talk prompt refusals) left) :=
      ⟨refusals, next, left, hanswers, hrefused, hsettles, rfl⟩
    rw [hasked.outcome_askUntil h hbound] at hrun
    obtain ⟨rfl, rfl⟩ := Prod.mk.inj hrun
    exact hasked
  · intro hasked
    exact hasked.outcome_askUntil h hbound

end Prompt

end DashboardKit
