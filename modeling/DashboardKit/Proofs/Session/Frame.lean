import DashboardKit.Proofs.FileTree.Growth
import DashboardKit.Proofs.Session.Outcome
import Mathlib.Order.Defs.Unbundled

/-!
# What actions leave alone

An action keeps a relation between sessions if the session it starts in and the one it ends in are
so related, whatever comes of it.  The relations that matter are reflexive and transitive, so that
sequences and handlers keep what their parts keep.

Reading keeps equality, printing keeps everything but the events, and writing keeps `GrowsAt`: the
tree grows, and files are written only where given paths lead.
-/

set_option autoImplicit false

namespace DashboardKit

variable {α β ε : Type}

namespace Session

/-- The second session differs from the first at most in what was printed. -/
def PrintsTo (s s' : Session) : Prop := s' = { s with events := s'.events }

/-- The second session differs from the first at most in its files. -/
def FilesTo (s s' : Session) : Prop := s' = { s with tree := s'.tree }

/-- The second session differs from the first at most in its files and what was printed. -/
def WritesTo (s s' : Session) : Prop := s' = { s with tree := s'.tree, events := s'.events }

/-- The second session differs from the first at most in what was printed and in that these calls of
the package manager were made. -/
def CallsTo (calls : List InstallCall) (s s' : Session) : Prop :=
  s' = { s with events := s'.events, installCalls := s.installCalls ++ calls }

/-- The tree of the second session grew from that of the first, and files were written at most where
these paths lead. -/
def GrowsAt (paths : Path → Prop) (s s' : Session) : Prop :=
  s'.workingDir = s.workingDir ∧
    FileTree.GrowsTo (fun l => ∃ p, paths p ∧ s'.tree.locate s'.workingDir p = .ok l) s.tree s'.tree

instance : IsPreorder Session PrintsTo where
  refl _ := rfl
  trans s₁ s₂ s₃ h h' := by
    unfold PrintsTo at h h' ⊢
    rw [h', h]

instance : IsPreorder Session FilesTo where
  refl _ := rfl
  trans s₁ s₂ s₃ h h' := by
    unfold FilesTo at h h' ⊢
    rw [h', h]

instance : IsPreorder Session WritesTo where
  refl _ := rfl
  trans s₁ s₂ s₃ h h' := by
    unfold WritesTo at h h' ⊢
    rw [h', h]

theorem GrowsAt.mono {paths paths' : Path → Prop} {s s' : Session} (h : GrowsAt paths s s')
    (hsub : ∀ p, paths p → paths' p) : GrowsAt paths' s s' := by
  refine ⟨h.1, h.2.mono ?_⟩
  rintro l ⟨p, hp, hl⟩
  exact ⟨p, hsub p hp, hl⟩

/-- What a path leads to stays the same. -/
theorem GrowsAt.locate {paths : Path → Prop} {s s' : Session} (h : GrowsAt paths s s') {p : Path}
    {l : Location} (hl : s.tree.locate s.workingDir p = .ok l) :
    s'.tree.locate s'.workingDir p = .ok l := by
  rw [h.1]
  exact h.2.locate hl

/-- The working directory stays, and stays a directory. -/
theorem GrowsAt.dir_workingDir {paths : Path → Prop} {s s' : Session} (h : GrowsAt paths s s')
    (hcwd : s.tree.find? s.workingDir = some .dir) : s'.tree.find? s'.workingDir = some .dir := by
  rw [h.1]
  exact h.2.dir hcwd

/-- Two paths lead to the same place. -/
def SamePlace (s : Session) (p q : Path) : Prop :=
  ∃ l, s.tree.locate s.workingDir p = .ok l ∧ s.tree.locate s.workingDir q = .ok l

/-- Paths that lead to the same place go on doing so. -/
theorem GrowsAt.samePlace {paths : Path → Prop} {s s' : Session} (h : GrowsAt paths s s')
    {p q : Path} (hsame : s.SamePlace p q) : s'.SamePlace p q := by
  obtain ⟨l, hp, hq⟩ := hsame
  exact ⟨l, h.locate hp, h.locate hq⟩

/-- A file stays as it is if nothing is written to the place its path leads to. -/
theorem GrowsAt.readFile {paths : Path → Prop} {s s' : Session} (h : GrowsAt paths s s') {p : Path}
    {octets : Utf8.Octets} (hread : s.tree.readFile s.workingDir p = .ok octets)
    (hother : ∀ q, paths q → ¬ s'.SamePlace q p) :
    s'.tree.readFile s'.workingDir p = .ok octets := by
  obtain ⟨l, hl, hfile⟩ := FileTree.readFile_eq_ok_iff.1 hread
  have hl' := h.locate hl
  refine FileTree.readFile_eq_ok_iff.2 ⟨l, hl', (h.2.file_iff ?_).2 hfile⟩
  rintro ⟨q, hq, hlq⟩
  exact hother q hq ⟨l, hlq, hl'⟩

/-- At a location there is a file that was not there, or not this file. -/
def NewFile (s s' : Session) (l : Location) : Prop :=
  ∃ octets, s'.tree.find? l = some (.file octets) ∧ s.tree.find? l ≠ some (.file octets)

/-- A new file is where one of the paths leads. -/
theorem GrowsAt.exists_of_newFile {paths : Path → Prop} {s s' : Session} (h : GrowsAt paths s s')
    {l : Location} (hnew : s.NewFile s' l) :
    ∃ p, paths p ∧ s'.tree.locate s'.workingDir p = .ok l := by
  obtain ⟨octets, hthere, hbefore⟩ := hnew
  exact Classical.byContradiction fun hnone => hbefore ((h.2.file_iff hnone).1 hthere)

instance (paths : Path → Prop) : IsPreorder Session (GrowsAt paths) where
  refl s := ⟨rfl, .refl _ s.tree⟩
  trans s₁ s₂ s₃ h h' := by
    refine ⟨h'.1.trans h.1, (h.2.mono ?_).trans h'.2⟩
    rintro l ⟨p, hp, hl⟩
    exact ⟨p, hp, h'.locate hl⟩

theorem PrintsTo.writesTo {s s' : Session} (h : PrintsTo s s') : WritesTo s s' := by
  unfold PrintsTo at h
  unfold WritesTo
  rw [h]

theorem FilesTo.writesTo {s s' : Session} (h : FilesTo s s') : WritesTo s s' := by
  unfold FilesTo at h
  unfold WritesTo
  rw [h]

theorem PrintsTo.callsTo {s s' : Session} (h : PrintsTo s s') : CallsTo [] s s' := by
  unfold PrintsTo at h
  unfold CallsTo
  rw [h, List.append_nil]

theorem CallsTo.trans {calls calls' : List InstallCall} {s₁ s₂ s₃ : Session}
    (h : CallsTo calls s₁ s₂) (h' : CallsTo calls' s₂ s₃) : CallsTo (calls ++ calls') s₁ s₃ := by
  unfold CallsTo at h h' ⊢
  rw [h', h, List.append_assoc]

/-- What the package manager will do is the same. -/
theorem WritesTo.install_eq {s s' : Session} (h : WritesTo s s') : s'.install = s.install := by
  unfold WritesTo at h
  rw [h]

/-- So is what the disk takes. -/
theorem WritesTo.disk_eq {s s' : Session} (h : WritesTo s s') : s'.disk = s.disk := by
  unfold WritesTo at h
  rw [h]

/-- The package manager was not called. -/
theorem WritesTo.installCalls_eq {s s' : Session} (h : WritesTo s s') :
    s'.installCalls = s.installCalls := by
  unfold WritesTo at h
  rw [h]

/-- These calls of the package manager were made. -/
theorem CallsTo.installCalls_eq {calls : List InstallCall} {s s' : Session}
    (h : CallsTo calls s s') : s'.installCalls = s.installCalls ++ calls := by
  unfold CallsTo at h
  rw [h]

theorem PrintsTo.growsAt {s s' : Session} (h : PrintsTo s s') (paths : Path → Prop) :
    GrowsAt paths s s' := by
  unfold PrintsTo at h
  rw [h]
  exact ⟨rfl, .refl _ s.tree⟩

end Session

namespace Action

open Session

/-- The sessions before and after the action are related, whatever comes of it. -/
def Keeps (R : Session → Session → Prop) (a : Action α) : Prop := ∀ s, R s (a.outcome s).2

section

variable {R R' : Session → Session → Prop}

theorem Keeps.mono {a : Action α} (h : a.Keeps R) (hsub : ∀ s s', R s s' → R' s s') :
    a.Keeps R' := fun s => hsub s _ (h s)

/-- The session that an action ends in, whatever came of it. -/
theorem Keeps.of_outcome {a : Action α} (h : a.Keeps R) {s s' : Session} {r : Except Failure α}
    (hrun : a.outcome s = (r, s')) : R s s' := by
  have hs := h s
  rwa [hrun] at hs

variable [IsPreorder Session R]

theorem keeps_pure (a : α) : (pure a : Action α).Keeps R := fun s => refl_of R s

theorem keeps_throw (f : Failure) : (throw f : Action α).Keeps R := fun s => refl_of R s

theorem keeps_get : (get : Action Session).Keeps R := fun s => refl_of R s

theorem keeps_ofExcept (failure : ε → Failure) (x : Except ε α) :
    (ofExcept failure x).Keeps R := by
  intro s
  rw [outcome_ofExcept]
  exact refl_of R s

theorem Keeps.bind {a : Action α} {f : α → Action β} (ha : a.Keeps R) (hf : ∀ x, (f x).Keeps R) :
    (a >>= f).Keeps R := by
  intro s
  have hs := ha s
  rw [outcome_bind]
  rcases hrun : a.outcome s with ⟨e | x, s'⟩ <;> rw [hrun] at hs
  · exact hs
  · exact trans_of R hs (hf x s')

theorem Keeps.tryCatch {a : Action α} {f : Failure → Action α} (ha : a.Keeps R)
    (hf : ∀ e, (f e).Keeps R) : (tryCatch a f).Keeps R := by
  intro s
  have hs := ha s
  rw [outcome_tryCatch]
  rcases hrun : a.outcome s with ⟨e | x, s'⟩ <;> rw [hrun] at hs
  · exact trans_of R hs (hf e s')
  · exact hs

/-- What follows on something that is given has to keep the relation only if it is there. -/
theorem keeps_ofExcept_bind {failure : ε → Failure} {x : Except ε α} {f : α → Action β}
    (hf : ∀ a, x = .ok a → (f a).Keeps R) : (ofExcept failure x >>= f).Keeps R := by
  intro s
  rw [outcome_bind, outcome_ofExcept]
  cases x with
  | error e => exact refl_of R s
  | ok a => exact hf a rfl s

theorem Keeps.of_eq {a : Action α} (h : a.Keeps Eq) : a.Keeps R :=
  h.mono fun s _ hs => hs ▸ refl_of R s

theorem keeps_foldlM {l : List β} {f : α → β → Action α} (hf : ∀ a, ∀ x ∈ l, (f a x).Keeps R)
    {a : α} : (l.foldlM f a).Keeps R := by
  induction l generalizing a with
  | nil => exact keeps_pure a
  | cons x l ih =>
    rw [List.foldlM_cons]
    exact (hf a x List.mem_cons_self).bind fun _ =>
      ih fun a y hy => hf a y (List.mem_cons_of_mem x hy)

theorem keeps_forM {l : List β} {f : β → Action Unit} (hf : ∀ x, (f x).Keeps R) :
    (l.forM f).Keeps R := by
  induction l with
  | nil => exact keeps_pure ()
  | cons x l ih => exact (hf x).bind fun _ => ih

theorem keeps_mapM {γ : Type} {l : List β} {f : β → Action γ} (hf : ∀ x, (f x).Keeps R) :
    (l.mapM f).Keeps R := by
  induction l with
  | nil => exact keeps_pure []
  | cons x l ih =>
    rw [List.mapM_cons]
    exact (hf x).bind fun _ => ih.bind fun _ => keeps_pure _

/-- What is done first under a condition keeps the relation, and so does what follows. -/
theorem keeps_after_if {c : Prop} [Decidable c] {a : Action β} {rest : Action α} (ha : a.Keeps R)
    (h : rest.Keeps R) : (if c then a >>= fun _ => rest else rest).Keeps R := by
  split
  · exact ha.bind fun _ => h
  · exact h

end

/-! ## Printing -/

theorem keeps_emit (e : Event) : (emit e).Keeps PrintsTo := fun _ => rfl

theorem keeps_print (t : Text) : (print t).Keeps PrintsTo := keeps_emit (.line t)

theorem keeps_printMarkup (t : Text) : (printMarkup t).Keeps PrintsTo :=
  (keeps_ofExcept Failure.markup (Markup.shown t)).bind fun t => keeps_print t

theorem keeps_printWarning (t : Text) : (printWarning t).Keeps PrintsTo := keeps_printMarkup _

theorem keeps_printHeader (t : Text) : (printHeader t).Keeps PrintsTo :=
  (keeps_print []).bind fun _ => (keeps_emit _).bind fun _ => keeps_print []

/-! ## Reading -/

theorem keeps_checkName (name : Text) : (checkName name).Keeps Eq := by
  intro s
  unfold checkName
  split
  · rfl
  · split <;> rfl

theorem keeps_checkPath (p : Path) : (checkPath p).Keeps Eq := keeps_checkName p.text

theorem keeps_readFile (p : Path) : (readFile p).Keeps Eq :=
  (keeps_checkPath p).bind fun _ => keeps_get.bind fun _ => keeps_ofExcept _ _

theorem keeps_readText (p : Path) : (readText p).Keeps Eq :=
  (keeps_readFile p).bind fun _ => keeps_ofExcept _ _

theorem keeps_loadJson (p : Path) : (loadJson p).Keeps Eq :=
  (keeps_readText p).bind fun _ => keeps_ofExcept _ _

theorem keeps_checkSteps (anchor : Anchor) (front segments : List Text) :
    (checkSteps anchor front segments).Keeps Eq := by
  induction segments generalizing front with
  | nil => exact keeps_pure ()
  | cons s rest ih =>
    unfold checkSteps
    split
    · exact ih _
    · exact (keeps_checkPath _).bind fun _ => ih _

theorem keeps_resolve (p : Path) : (resolve p).Keeps Eq :=
  (keeps_checkSteps _ _ _).bind fun _ => keeps_get.bind fun _ => keeps_pure _

/-! ## Writing -/

section

variable {R : Session → Session → Prop} [IsPreorder Session R] {p : Path}

/-- Making directories keeps what making them in the tree keeps. -/
theorem keeps_makeDirs_of
    (h : ∀ s : Session, R s { s with tree := (s.tree.makeDirs s.disk s.workingDir p).1 }) :
    (makeDirs p).Keeps R := by
  refine (keeps_checkPath p).of_eq.bind fun _ s => ?_
  rw [outcome_bind]
  simp only [outcome_get]
  rw [outcome_bind]
  simp only [outcome_set, outcome_ofExcept]
  exact h s

/-- Writing octets keeps what writing any of them in the tree keeps: a disk that breaks off takes
some. -/
theorem keeps_writeFile_of {octets : Utf8.Octets}
    (h : ∀ (s : Session) tree octets', s.tree.writeFile s.workingDir p octets' = .ok tree →
      R s { s with tree }) : (writeFile p octets).Keeps R := by
  have hput (octets' : Utf8.Octets) : (putFile p octets').Keeps R := by
    intro s
    rw [putFile, outcome_bind]
    simp only [outcome_get]
    rw [outcome_bind, outcome_ofExcept]
    cases hwrite : s.tree.writeFile s.workingDir p octets' with
    | error c => exact refl_of R s
    | ok tree => exact h s tree octets' hwrite
  refine (keeps_checkPath p).of_eq.bind fun _ => keeps_get.of_eq.bind fun s => ?_
  split
  · exact hput octets
  · exact keeps_throw _
  · exact (hput _).bind fun _ => keeps_throw _

end

theorem keeps_makeDirs (p : Path) (paths : Path → Prop) : (makeDirs p).Keeps (GrowsAt paths) :=
  keeps_makeDirs_of fun s => ⟨rfl, FileTree.growsTo_makeDirs s.tree s.disk s.workingDir p⟩

theorem keeps_writeFile (p : Path) (octets : Utf8.Octets) :
    (writeFile p octets).Keeps (GrowsAt (· = p)) := by
  refine keeps_writeFile_of fun s tree _ hwrite => ⟨rfl, ?_⟩
  exact (FileTree.growsTo_writeFile hwrite).1.mono fun l hl => ⟨p, rfl, hl⟩

theorem keeps_writeText (p : Path) (t : Text) : (writeText p t).Keeps (GrowsAt (· = p)) := by
  unfold writeText
  split
  · exact keeps_writeFile p _
  · exact (keeps_writeFile p _).bind fun _ => keeps_throw _

theorem keeps_ensureDir (p : Path) (paths : Path → Prop) :
    (ensureDir p).Keeps (GrowsAt paths) :=
  (keeps_makeDirs p paths).bind fun _ => (keeps_resolve p).of_eq

theorem keeps_saveJson (v : Value) (p : Path) : (saveJson v p).Keeps (GrowsAt (· = p)) :=
  (keeps_makeDirs p.parent _).bind fun _ =>
    (keeps_ofExcept _ _).bind fun t => keeps_writeText p t

/-! Nothing but the files is touched by writing. -/

theorem keeps_makeDirs_filesTo (p : Path) : (makeDirs p).Keeps FilesTo :=
  keeps_makeDirs_of fun _ => rfl

theorem keeps_writeFile_filesTo (p : Path) (octets : Utf8.Octets) :
    (writeFile p octets).Keeps FilesTo :=
  keeps_writeFile_of fun _ _ _ _ => rfl

theorem keeps_writeText_filesTo (p : Path) (t : Text) : (writeText p t).Keeps FilesTo := by
  unfold writeText
  split
  · exact keeps_writeFile_filesTo p _
  · exact (keeps_writeFile_filesTo p _).bind fun _ => keeps_throw _

theorem keeps_ensureDir_filesTo (p : Path) : (ensureDir p).Keeps FilesTo :=
  (keeps_makeDirs_filesTo p).bind fun _ => (keeps_resolve p).of_eq

end Action

/-! ## Actions that remember -/

namespace ActionOf

variable {σ : Type} {R : Session → Session → Prop}

/-- The sessions before and after the action are related, whatever comes of it. -/
def Keeps (R : Session → Session → Prop) (a : ActionOf σ α) : Prop :=
  ∀ m s, R s (a.outcome m s).2.2

theorem Keeps.of_outcome {a : ActionOf σ α} (h : a.Keeps R) {m m' : σ} {s s' : Session}
    {r : Except Failure α} (hrun : a.outcome m s = (r, m', s')) : R s s' := by
  have hs := h m s
  rwa [hrun] at hs

theorem keeps_lift {a : Action α} (h : a.Keeps R) : (lift a : ActionOf σ α).Keeps R :=
  fun _ s => h s

variable [IsPreorder Session R]

theorem keeps_pure (a : α) : (pure a : ActionOf σ α).Keeps R := fun _ s => refl_of R s

theorem keeps_throw (f : Failure) : (throw f : ActionOf σ α).Keeps R := fun _ s => refl_of R s

theorem keeps_memory : (memory : ActionOf σ σ).Keeps R := fun _ s => refl_of R s

theorem keeps_remember (g : σ → σ) : (remember g).Keeps R := fun _ s => refl_of R s

theorem Keeps.bind {a : ActionOf σ α} {f : α → ActionOf σ β} (ha : a.Keeps R)
    (hf : ∀ x, (f x).Keeps R) : (a >>= f).Keeps R := by
  intro m s
  have hs := ha m s
  rw [outcome_bind]
  rcases hrun : a.outcome m s with ⟨e | x, m', s'⟩ <;> rw [hrun] at hs
  · exact hs
  · exact trans_of R hs (hf x m' s')

theorem Keeps.tryCatch {a : ActionOf σ α} {f : Failure → ActionOf σ α} (ha : a.Keeps R)
    (hf : ∀ e, (f e).Keeps R) : (tryCatch a f).Keeps R := by
  intro m s
  have hs := ha m s
  rw [outcome_tryCatch]
  rcases hrun : a.outcome m s with ⟨e | x, m', s'⟩ <;> rw [hrun] at hs
  · exact trans_of R hs (hf e m' s')
  · exact hs

end ActionOf

end DashboardKit
