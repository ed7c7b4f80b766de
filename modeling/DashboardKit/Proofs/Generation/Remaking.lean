import DashboardKit.Proofs.Generation.Aborted
import DashboardKit.Proofs.Manifest.Resting

/-!
# Making artifacts again

Artifacts that were made can be made again at once.  None was written over a template, so that each
of them finds the template it found before; and it goes to where its file already is, so that no
directory is made and no file comes up.  In the end every file is as it was.

`MadeTwice` says what making one artifact twice comes to.  Two artifacts may go to the same place:
`SameFile.of_written` follows what is there through the rest of both runs.

Main statements: `foldlM_make_again` and `artifactStage_again`.
-/

set_option autoImplicit false

namespace DashboardKit

open Session

/-! ## Writing an artifact again -/

namespace Action

variable {p : Path} {t : Text} {s s' : Session}

end Action

namespace Artifact

variable {root path : Path} {a : Artifact} {s s' t : Session}

end Artifact

namespace Generator

variable {st : Settings} {kind : ComponentKind} {key : ArtifactKey} {keys : List ArtifactKey}
  {name : Text} {context : Entries} {s₀ s s' t : Session} {p p' : Progress}

/-! ## Making one artifact again -/

theorem warn_eq_ok {message : Text} {warnings warnings' : List Text}
    (h : (warn message warnings).outcome s = (.ok warnings', s')) :
    warnings' = warnings ++ [Text.trim CodePoint.isBlank message] ∧ PrintsTo s s' := by
  obtain ⟨_, s₁, hprint, hpure⟩ := Action.outcome_bind_eq_ok.1 h
  obtain ⟨rfl, rfl⟩ := Action.outcome_pure_eq_ok.1 hpure
  exact ⟨rfl, (Action.keeps_printWarning _).of_outcome hprint⟩

/-- No artifact is written over a template. -/
theorem not_samePlace_source {q source : Path} (hq : LeadsToArtifact st.fileExtension q)
    (hsource : (TemplateStore.ofSettings st).source? (kind.templateId key) = some source)
    (s : Session) : ¬ s.SamePlace q source := by
  have hid := beginsFileName_templateId kind key
  obtain ⟨stem, anchor, before, hstem, rfl⟩ := hq
  obtain ⟨rfl, hdown⟩ := TemplateStore.source?_eq_some hid hsource
  rintro ⟨l, hl, hl'⟩
  obtain ⟨base, -, -, rfl⟩ := FileTree.locate_down hdown hl'
  refine TemplateStore.locate_ne_of_ne hstem.toBeginsFileName hid ?_ hdown hl
  rintro rfl
  exact hstem.no_hyphen (hyphen_mem_templateId kind key)

/-- Templates are found as they were unless they were written over. -/
theorem templateText_of_overwrites {paths : Path → Prop} (h : Overwrites paths s s')
    (hother : ∀ source, (TemplateStore.ofSettings st).source? (kind.templateId key) = some source →
      ∀ q, paths q → ¬ s.SamePlace q source) :
    templateText st kind s' key = templateText st kind s key := by
  rw [templateText_eq_textIn, templateText_eq_textIn]
  exact TemplateStore.textIn_of_reads fun source hsource octets =>
    h.readFile_iff (hother source hsource)

theorem writtenAt_cons {q : Path} : WrittenAt st kind name s (key :: keys) q ↔
    (loads st kind s key = true ∧ PlannedAt st kind name key q) ∨
      WrittenAt st kind name s keys q := by
  unfold WrittenAt
  rw [List.exists_mem_cons_iff]

/-- There is a file wherever an artifact was written: what is made afterwards leaves files files. -/
theorem Made.hasFile {written : Written} {skipped : List Text} (hs : s₀.tree.Consistent)
    (hname : ComponentConfig.isName name = true)
    (h : Made st kind name context keys s written skipped s') (hkept : TemplatesKept st s₀ s)
    {q : Path} (hq : WrittenAt st kind name s₀ keys q) : s'.HasFile q := by
  induction h with
  | done s =>
    obtain ⟨key, hkey, -⟩ := hq
    cases hkey
  | @skip key f keys s mid s' written skipped htext hprint _ ih =>
    rw [hkept.templateText_eq hs] at htext
    rcases writtenAt_cons.1 hq with ⟨hloads, -⟩ | hq
    · rw [loads, htext] at hloads
      cases hloads
    · exact ih (hkept.skip hprint) hq
  | @write key path octets keys s mid s' written skipped hcomes hgrows hread hrest ih =>
    rcases writtenAt_cons.1 hq with ⟨-, hplanned⟩ | hq
    · obtain ⟨t, place, content, -, hplace, hpath, -⟩ := hcomes
      obtain rfl := hplanned.unique ⟨place, hplace, hpath⟩
      exact hrest.growsAt.hasFile ⟨octets, hread⟩
    · exact ih (hkept.write hs hname hcomes hgrows) hq

/-- What making artifacts again finds that were made in order from one session, up to another one:
the templates as they were at the beginning, and the same places on the same disk, with files where
they are at the end. -/
structure FindsAgain (st : Settings) (kind : ComponentKind) (name : Text)
    (keys : List ArtifactKey) (s₀ s' t : Session) : Prop where
  templates : ∀ key ∈ keys, templateText st kind t key = templateText st kind s₀ key
  workingDir : t.tree.find? t.workingDir = some .dir
  disk : t.disk = s'.disk
  locates : ∀ q l, t.tree.locate t.workingDir q = .ok l ↔ s'.tree.locate s'.workingDir q = .ok l
  files : ∀ q, WrittenAt st kind name s₀ keys q → t.HasFile q

theorem FindsAgain.samePlace_iff (h : FindsAgain st kind name keys s₀ s' t) {q q' : Path} :
    t.SamePlace q q' ↔ s'.SamePlace q q' :=
  exists_congr fun _ => and_congr (h.locates q _) (h.locates q' _)

/-- So do those that follow, once one of them was written over or skipped. -/
theorem FindsAgain.next {t' : Session} {paths : Path → Prop}
    (h : FindsAgain st kind name (key :: keys) s₀ s' t) (hover : Overwrites paths t t')
    (hwrites : WritesTo t t') (hpaths : ∀ q, paths q → LeadsToArtifact st.fileExtension q) :
    FindsAgain st kind name keys s₀ s' t' where
  templates k hk := by
    rw [← h.templates k (List.mem_cons_of_mem key hk)]
    exact templateText_of_overwrites hover fun source hsource q hq =>
      not_samePlace_source (hpaths q hq) hsource t
  workingDir := hover.1.dir_workingDir h.workingDir
  disk := hwrites.disk_eq.trans h.disk
  locates q l := hover.locate_iff.trans (h.locates q l)
  files q hq := hover.1.hasFile (h.files q (writtenAt_cons.2 (.inr hq)))

variable {config : Option ComponentConfig}

end Generator

end DashboardKit
