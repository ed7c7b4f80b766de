import DashboardKit.Generation.Generator
import DashboardKit.Proofs.Component.Places
import DashboardKit.Proofs.Template.Loading

/-!
# Making one artifact

An artifact is skipped if its template cannot be read, and otherwise rendered and written.  What is
at its destination afterwards is the rendered template, and no other file was touched.

Main statements: `Artifact.write_eq_ok` and `Generator.make_eq_ok`.
-/

set_option autoImplicit false

namespace DashboardKit

open Session

/-! ## Writing one artifact -/

namespace Artifact

theorem keeps_writing {α : Type} {R : Session → Session → Prop} [IsPreorder Session R] (key : Text)
    (path : Path) {act : Action α} (h : act.Keeps R) : (writing key path act).Keeps R := by
  refine h.tryCatch fun f => ?_
  split <;> exact Action.keeps_throw _

theorem writing_eq_ok {α : Type} {key : Text} {path : Path} {act : Action α} {s s' : Session}
    {x : α} : (writing key path act).outcome s = (.ok x, s') ↔ act.outcome s = (.ok x, s') := by
  refine Action.outcome_tryCatch_eq_ok fun f s₁ x' s₂ => ?_
  split <;> simp

/-- Writing an artifact keeps what printing keeps and what writing its file keeps. -/
theorem keeps_write_of {R : Session → Session → Prop} [IsPreorder Session R] {root : Path}
    {a : Artifact} (hprints : ∀ s s', PrintsTo s s' → R s s')
    (hdir : (Action.ensureDir (a.destination root).parent).Keeps R)
    (hfile : (Action.writeText (a.destination root) a.content).Keeps R) (echo : Bool) :
    (a.write root echo).Keeps R := by
  unfold write
  refine (keeps_writing _ _ (hdir.bind fun _ => hfile)).bind fun _ => ?_
  split
  · refine Action.Keeps.bind ?_ fun _ => Action.keeps_pure _
    exact (Action.keeps_printMarkup _).mono hprints
  · exact Action.keeps_pure _

/-- Writing an artifact changes the file at its destination and no other. -/
theorem keeps_write (root : Path) (echo : Bool) (a : Artifact) :
    (a.write root echo).Keeps (GrowsAt (· = a.destination root)) :=
  keeps_write_of (fun _ _ h => h.growsAt _) (Action.keeps_ensureDir _ _)
    (Action.keeps_writeText _ _) echo

/-- Writing an artifact changes files only. -/
theorem keeps_write_writesTo (root : Path) (echo : Bool) (a : Artifact) :
    (a.write root echo).Keeps WritesTo :=
  keeps_write_of (fun _ _ h => h.writesTo)
    ((Action.keeps_ensureDir_filesTo _).mono fun _ _ h => h.writesTo)
    ((Action.keeps_writeText_filesTo _ _).mono fun _ _ h => h.writesTo) echo

/-- An artifact that was written is at its destination, encoded. -/
theorem write_eq_ok {root path : Path} {echo : Bool} {a : Artifact} {s s' : Session}
    (h : (a.write root echo).outcome s = (.ok path, s')) :
    path = a.destination root ∧ ∃ octets, Utf8.encode a.content = .ok octets ∧
      s'.tree.readFile s'.workingDir path = .ok octets := by
  unfold write at h
  obtain ⟨_, s₁, hwriting, h⟩ := Action.outcome_bind_eq_ok.1 h
  obtain ⟨_, s₂, -, hwrite⟩ := Action.outcome_bind_eq_ok.1 (writing_eq_ok.1 hwriting)
  obtain ⟨octets, hencode, hfile⟩ := Action.writeText_eq_ok hwrite
  -- what is told afterwards changes no file
  have hprint : path = a.destination root ∧ PrintsTo s₁ s' := by
    split at h
    · obtain ⟨_, s₃, hmarkup, hpure⟩ := Action.outcome_bind_eq_ok.1 h
      obtain ⟨rfl, rfl⟩ := Action.outcome_pure_eq_ok.1 hpure
      exact ⟨rfl, (Action.keeps_printMarkup _).of_outcome hmarkup⟩
    · obtain ⟨rfl, rfl⟩ := Action.outcome_pure_eq_ok.1 h
      exact ⟨rfl, refl_of PrintsTo _⟩
  obtain ⟨rfl, hprint⟩ := hprint
  refine ⟨rfl, octets, hencode, ?_⟩
  unfold PrintsTo at hprint
  have hread := Action.writeFile_eq_ok hfile
  rw [hprint]
  exact hread

end Artifact

namespace Written

theorem note_of_not_mem {key : Text} {path : Path} {w : Written} (h : key ∉ w.map (·.1)) :
    note key path w = w ++ [(key, path)] := by
  induction w with
  | nil => rfl
  | cons e w ih =>
    rw [List.map_cons, List.mem_cons, not_or] at h
    rw [note, if_neg (Ne.symm h.1), ih h.2]
    rfl

end Written

/-- Different artifacts have different names. -/
theorem ArtifactKey.eq_of_name {a b : ArtifactKey}
    (h : Text.ofString a.name = Text.ofString b.name) : a = b := by
  revert h
  cases a <;> cases b <;> decide

namespace Generator

variable {st : Settings} {kind : ComponentKind} {key : ArtifactKey} {name : Text}
  {context : Entries} {s s' : Session}

/-! ## One step -/

/-- What loading the template of an artifact gives in a session. -/
def templateText (st : Settings) (kind : ComponentKind) (s : Session) (key : ArtifactKey) :
    Except Failure Text :=
  (((TemplateStore.ofSettings st).load (kind.templateId key)).outcome s).1

theorem templateText_eq_textIn (st : Settings) (kind : ComponentKind) (s : Session)
    (key : ArtifactKey) :
    templateText st kind s key = (TemplateStore.ofSettings st).textIn s (kind.templateId key) := by
  rw [templateText, TemplateStore.outcome_load]

theorem outcome_template (st : Settings) (kind : ComponentKind) (key : ArtifactKey) (s : Session) :
    (template st kind key).outcome s = (.ok (templateText st kind s key), s) := by
  rw [templateText_eq_textIn, template, Action.outcome_tryCatch, Action.outcome_bind,
    TemplateStore.outcome_load]
  cases htext : (TemplateStore.ofSettings st).textIn s (kind.templateId key) with
  | ok t => rfl
  | error f =>
    obtain ⟨location, reason, rfl⟩ := TemplateStore.textIn_error htext
    rfl

/-- The file that an artifact comes to: the template as a session holds it, rendered and encoded,
at the place of the artifact. -/
def ComesTo (st : Settings) (kind : ComponentKind) (name : Text) (context : Entries) (s : Session)
    (key : ArtifactKey) (path : Path) (octets : Utf8.Octets) : Prop :=
  ∃ t place content,
    templateText st kind s key = .ok t ∧
      st.layout.place kind key name = .ok place ∧ path = st.projectRoot.joinParts place.parts ∧
      Template.render st.delimiter context t = .ok content ∧ Utf8.encode content = .ok octets

theorem artifact_eq_ok {t : Text} {a : Artifact} (h : artifact st kind key name context t = .ok a) :
    a.key = Text.ofString key.name ∧ st.layout.place kind key name = .ok a.path ∧
      Template.render st.delimiter context t = .ok a.content := by
  unfold artifact TemplateStore.render at h
  cases hplace : st.layout.place kind key name with
  | error e => simp [hplace, Except.mapError, bind, Except.bind] at h
  | ok place =>
    cases hrender : Template.render (TemplateStore.ofSettings st).delimiter context t with
    | error e => simp [hplace, hrender, Except.mapError, bind, Except.bind] at h
    | ok content =>
      obtain rfl : (⟨Text.ofString key.name, place, content⟩ : Artifact) = a := by
        simpa [hplace, hrender, Except.mapError, bind, Except.bind, pure, Except.pure] using h
      exact ⟨rfl, rfl, hrender⟩

/-- One artifact is skipped because its template cannot be read, or it is written and read back. -/
theorem make_eq_ok {p p' : Progress}
    (h : (make st kind name context p key).outcome s = (.ok p', s')) :
    ((∃ f, templateText st kind s key = .error f) ∧ p'.written = p.written ∧
        p'.skipped = p.skipped ++ [Text.ofString key.name] ∧ PrintsTo s s') ∨
      ∃ path octets, ComesTo st kind name context s key path octets ∧
        p'.written = Written.note (Text.ofString key.name) path p.written ∧
        p'.skipped = p.skipped ∧ GrowsAt (· = path) s s' ∧
        s'.tree.readFile s'.workingDir path = .ok octets := by
  unfold make at h
  rw [Action.outcome_bind_of_ok (outcome_template st kind key s)] at h
  cases htext : templateText st kind s key with
  | error f =>
    simp only [htext] at h
    obtain ⟨warnings, s₁, hwarn, hpure⟩ := Action.outcome_bind_eq_ok.1 h
    obtain ⟨_, s₂, hprint, hpure'⟩ := Action.outcome_bind_eq_ok.1 hwarn
    obtain ⟨-, rfl⟩ := Action.outcome_pure_eq_ok.1 hpure'
    obtain ⟨rfl, rfl⟩ := Action.outcome_pure_eq_ok.1 hpure
    exact .inl ⟨⟨f, rfl⟩, rfl, rfl, (Action.keeps_printWarning _).of_outcome hprint⟩
  | ok t =>
    simp only [htext] at h
    obtain ⟨a, s₁, hartifact, h⟩ := Action.outcome_bind_eq_ok.1 h
    obtain ⟨path, s₂, hwrite, hpure⟩ := Action.outcome_bind_eq_ok.1 h
    obtain ⟨ha, rfl⟩ := Action.outcome_ofExcept_eq_ok.1 hartifact
    obtain ⟨rfl, rfl⟩ := Action.outcome_pure_eq_ok.1 hpure
    obtain ⟨hkey, hplace, hrender⟩ := artifact_eq_ok ha
    obtain ⟨rfl, octets, hencode, hread⟩ := Artifact.write_eq_ok hwrite
    refine .inr ⟨_, octets, ⟨t, a.path, a.content, htext, hplace, rfl, hrender, hencode⟩, ?_, rfl,
      (Artifact.keeps_write _ _ a).of_outcome hwrite, hread⟩
    rw [← hkey]
    rfl

end Generator

end DashboardKit
