import DashboardKit.Proofs.FileTree.Descent
import DashboardKit.Proofs.Path.Joining
import DashboardKit.Proofs.Session.Files
import DashboardKit.Template.Store

/-!
# Loading templates

Loading a template reads one file and changes nothing.  While files are written elsewhere a
template keeps its text; where its directory can be entered, no template comes up by directories
that are made.

Main statements: `outcome_load` and `textIn_of_growsAt`.
-/

set_option autoImplicit false

namespace DashboardKit

namespace Session

/-- The octets of the file that a path leads to, if it leads to one. -/
def octetsAt? (s : Session) (p : Path) : Option Utf8.Octets :=
  if Action.isUsable p then (s.tree.readFile s.workingDir p).toOption else none

theorem octetsAt?_eq_some_iff {s : Session} {p : Path} {octets : Utf8.Octets} :
    s.octetsAt? p = some octets ↔
      Action.isUsable p = true ∧ s.tree.readFile s.workingDir p = .ok octets := by
  unfold octetsAt?
  cases Action.isUsable p with
  | false => simp
  | true => cases s.tree.readFile s.workingDir p <;> simp [Except.toOption]

end Session

namespace TemplateStore

variable {store : TemplateStore} {s s' : Session} {id : Text}

/-! ## What loading gives -/

/-- The text of a template as a session holds it, or why it cannot be read. -/
def textIn (store : TemplateStore) (s : Session) (id : Text) : Except Failure Text :=
  match (store.source? id).bind s.octetsAt? with
  | none => .error (.template id (store.location id) (.missing (store.fileName id)))
  | some octets =>
    match Utf8.read octets with
    | .ok cs => .ok (Text.ofChars cs)
    | .error fault => .error (.template id (store.location id) (.undecodable ⟨fault, octets⟩))

theorem outcome_hasFile (p : Path) (s : Session) :
    (hasFile p).outcome s = (.ok (s.octetsAt? p).isSome, s) := by
  unfold hasFile Session.octetsAt?
  cases Action.isUsable p with
  | false => rfl
  | true =>
    simp only [if_true]
    rw [Action.outcome_bind_of_ok (Action.outcome_get s), Action.outcome_pure,
      FileTree.isFile_toOption]

/-- Loading gives the text of the template and changes nothing. -/
theorem outcome_load (store : TemplateStore) (id : Text) (s : Session) :
    (store.load id).outcome s = (store.textIn s id, s) := by
  unfold load textIn
  cases hsource : store.source? id with
  | none => rfl
  | some p =>
    simp only [Option.bind_some]
    rw [Action.outcome_bind_of_ok (outcome_hasFile p s)]
    cases hoctets : s.octetsAt? p with
    | none => rfl
    | some octets =>
      obtain ⟨husable, hread⟩ := Session.octetsAt?_eq_some_iff.1 hoctets
      have hrun : (Action.readFile p).outcome s = (.ok octets, s) :=
        Action.outcome_readFile_eq_ok_iff.2 ⟨husable, hread, rfl⟩
      simp only [Option.isSome_some, Bool.not_true, Bool.false_eq_true, if_false]
      rw [Action.outcome_bind_of_ok hrun]
      cases Utf8.read octets <;> rfl

/-- What stops loading is always told as a failure of the template. -/
theorem textIn_error {f : Failure} (h : store.textIn s id = .error f) :
    ∃ location reason, f = .template id location reason := by
  unfold textIn at h
  split at h
  · exact ⟨_, _, (Except.error.inj h).symm⟩
  · split at h
    · simp at h
    · exact ⟨_, _, (Except.error.inj h).symm⟩

/-! ## Templates while files are written -/

/-- The directory of the templates can be entered. -/
def DirReached (store : TemplateStore) (s : Session) : Prop :=
  ∃ base, s.tree.follow (if store.dir.isAbsolute then [] else s.workingDir) store.dir.segments
    = .ok base

/-- Where a template is read from: in the directory, by its name with the extension. -/
theorem source?_eq_some {p : Path} (hid : Path.BeginsFileName id)
    (h : store.source? id = some p) :
    p = ⟨store.dir.anchor, store.dir.segments ++ Path.fileSegments id store.extension⟩ ∧
      Path.dotDot ∉ Path.fileSegments id store.extension := by
  unfold source? fileName at h
  simp only at h
  split at h
  · simp at h
  · rename_i hnot
    rw [hid.filter_splitOn_append] at h
    refine ⟨(Option.some.inj h).symm, ?_⟩
    intro hmem
    refine hnot (List.contains_iff_mem.2 ?_)
    rw [← hid.filter_splitOn_append] at hmem
    exact (List.mem_filter.1 hmem).1

theorem exists_source {t : Text} (h : store.textIn s id = .ok t) :
    ∃ p octets, store.source? id = some p ∧
      s.tree.readFile s.workingDir p = .ok octets := by
  unfold textIn at h
  split at h
  · simp at h
  · rename_i octets hoctets
    obtain ⟨p, hp, hat⟩ := Option.bind_eq_some_iff.1 hoctets
    exact ⟨p, octets, hp, (Session.octetsAt?_eq_some_iff.1 hat).2⟩

/-- Where one template can be read, their directory can be entered. -/
theorem dirReached_of_textIn {t : Text} (hid : Path.BeginsFileName id)
    (h : store.textIn s id = .ok t) :
    store.DirReached s ∧ Path.dotDot ∉ Path.fileSegments id store.extension := by
  obtain ⟨p, octets, hsource, hread⟩ := exists_source h
  obtain ⟨rfl, hdown⟩ := source?_eq_some hid hsource
  obtain ⟨l, hl, -⟩ := FileTree.readFile_eq_ok_iff.1 hread
  obtain ⟨base, hbase, -⟩ := FileTree.locate_down hdown hl
  exact ⟨⟨base, hbase⟩, hdown⟩

/-- A file with another name does not lie where a template is looked for. -/
theorem locate_ne_of_ne {t : FileTree} {cwd base : Location} {anchor : Anchor}
    {before : List Text} {stem ext : Text} (hstem : Path.BeginsFileName stem)
    (hid : Path.BeginsFileName id) (hne : stem ≠ id)
    (hdown : Path.dotDot ∉ Path.fileSegments id ext) :
    t.locate cwd ⟨anchor, before ++ Path.fileSegments stem ext⟩
      ≠ .ok (base ++ (Path.fileSegments id ext).map FileName.spelled) := by
  intro hl
  rw [hid.dotDot_mem_fileSegments] at hdown
  obtain ⟨base', -, -, heq⟩ := FileTree.locate_down (by rwa [hstem.dotDot_mem_fileSegments]) hl
  exact hne (Path.append_spelled_fileSegments_inj hid.whole hstem.whole heq).symm

theorem readFile_source_iff {paths : Path → Prop} {octets : Utf8.Octets}
    (hs : s.tree.Consistent) (hid : Path.BeginsFileName id) (hdir : store.DirReached s)
    (h : Session.GrowsAt paths s s')
    (hpaths : ∀ q, paths q → ∃ stem anchor before, Path.BeginsFileName stem ∧ stem ≠ id ∧
      q = ⟨anchor, before ++ Path.fileSegments stem store.extension⟩)
    (hdown : Path.dotDot ∉ Path.fileSegments id store.extension) :
    s'.tree.readFile s'.workingDir
        ⟨store.dir.anchor, store.dir.segments ++ Path.fileSegments id store.extension⟩
        = .ok octets ↔
      s.tree.readFile s.workingDir
        ⟨store.dir.anchor, store.dir.segments ++ Path.fileSegments id store.extension⟩
          = .ok octets := by
  -- files are written at places with other names
  have hfree : ∀ base q, paths q →
      s'.tree.locate s'.workingDir q
        ≠ .ok (base ++ (Path.fileSegments id store.extension).map FileName.spelled) := by
    intro base q hq
    obtain ⟨stem, anchor, before, hstem, hne, rfl⟩ := hpaths q hq
    exact locate_ne_of_ne hstem hid hne hdown
  rw [FileTree.readFile_eq_ok_iff, FileTree.readFile_eq_ok_iff]
  constructor
  · rintro ⟨l, hl, hfile⟩
    obtain ⟨base', hbase', hrest, rfl⟩ := FileTree.locate_down hdown hl
    obtain ⟨base, hbase⟩ := hdir
    have hsame : base = base' := by
      have hbase'' := h.2.follow hbase
      rw [h.1] at hbase'
      exact Except.ok.inj (hbase''.symm.trans hbase')
    subst hsame
    have hold : s.tree.find? (base ++ (Path.fileSegments id store.extension).map FileName.spelled)
        = some (.file octets) :=
      (h.2.file_iff fun ⟨q, hq, hlq⟩ => hfree base q hq hlq).1 hfile
    refine ⟨_, FileTree.locate_eq_ok_iff.2 ⟨(FileTree.locate_eq_ok_iff.1 hl).1, ?_⟩, hold⟩
    refine FileTree.follow_append.2 ⟨base, hbase, hs.follow_of_follow hdown ?_ hrest⟩
    rw [hold]
    exact Option.some_ne_none _
  · rintro ⟨l, hl, hfile⟩
    obtain ⟨base, -, -, rfl⟩ := FileTree.locate_down hdown hl
    exact ⟨_, h.locate hl, (h.2.file_iff fun ⟨q, hq, hlq⟩ => hfree base q hq hlq).2 hfile⟩

/-- The text of a template is settled by the octets of the file that it is read from. -/
theorem textIn_of_reads
    (h : ∀ p, store.source? id = some p → ∀ octets,
      s'.tree.readFile s'.workingDir p = .ok octets ↔ s.tree.readFile s.workingDir p = .ok octets) :
    store.textIn s' id = store.textIn s id := by
  have hsource : (store.source? id).bind s'.octetsAt? = (store.source? id).bind s.octetsAt? := by
    cases hp : store.source? id with
    | none => rfl
    | some p =>
      refine Option.ext fun octets => ?_
      rw [Option.bind_some, Option.bind_some, Session.octetsAt?_eq_some_iff,
        Session.octetsAt?_eq_some_iff]
      exact and_congr_right fun _ => h p hp octets
  unfold textIn
  rw [hsource]

/-- A template keeps its text while files with other names are written, if the directory of the
templates can be entered. -/
theorem textIn_of_growsAt {paths : Path → Prop} (hs : s.tree.Consistent)
    (hid : Path.BeginsFileName id) (hdir : store.DirReached s) (h : Session.GrowsAt paths s s')
    (hpaths : ∀ q, paths q → ∃ stem anchor before, Path.BeginsFileName stem ∧ stem ≠ id ∧
      q = ⟨anchor, before ++ Path.fileSegments stem store.extension⟩) :
    store.textIn s' id = store.textIn s id := by
  refine textIn_of_reads fun p hp octets => ?_
  obtain ⟨rfl, hdown⟩ := source?_eq_some hid hp
  exact readFile_source_iff hs hid hdir h hpaths hdown

end TemplateStore

end DashboardKit
