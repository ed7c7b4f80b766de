import DashboardKit.Proofs.FileTree.Listing
import DashboardKit.Proofs.Path.Joining
import DashboardKit.Proofs.Session.Files
import DashboardKit.Proofs.Text.Order
import DashboardKit.Proofs.Text.Replacing

/-!
# Listing templates

A store with an extension lists the identifiers whose files lie in its directory: in their order,
each of them once.  An identifier is what stands in front of the extension, so that listing and
looking for a file undo each other.  Without an extension the empty identifier is listed for every
file.

Main statement: `identifiers_list`.
-/

set_option autoImplicit false

namespace DashboardKit

open Session DashboardKit.Action

namespace TemplateStore

variable {store : TemplateStore} {s : Session} {base : Location} {id name : Text}
  {ids : List Text}

/-! ## Identifiers and names of files -/

/-- What makes a name stand for an identifier. -/
theorem stands_iff {extension : Text} :
    (Text.endsWith name extension && !name.contains Path.slash) = true ↔
      extension <:+ name ∧ Path.slash ∉ name := by
  rw [Bool.and_eq_true, Text.endsWith_iff, Bool.not_eq_true', ← Bool.not_eq_true,
    List.contains_iff_mem]

theorem slash_not_mem_fileName (hid : Path.slash ∉ id) (hext : Path.slash ∉ store.extension) :
    Path.slash ∉ store.fileName id := by
  rw [fileName, List.mem_append, not_or]
  exact ⟨hid, hext⟩

/-- A name stands for the identifier in front of the extension. -/
theorem idOf?_eq_some_iff (hext : Path.slash ∉ store.extension) (hne : store.extension ≠ []) :
    store.idOf? name = some id ↔ Path.slash ∉ id ∧ name = store.fileName id := by
  have hfront (front : Text) : (if store.extension.isEmpty = true then [] else
      (front ++ store.extension).take ((front ++ store.extension).length - store.extension.length))
      = front := by
    rw [if_neg (by simpa using hne), List.length_append, Nat.add_sub_cancel, List.take_left']
    rfl
  unfold idOf? fileName
  constructor
  · intro h
    split at h
    · rename_i hname
      obtain ⟨⟨front, rfl⟩, hslash⟩ := stands_iff.1 hname
      rw [hfront] at h
      obtain rfl := Option.some.inj h
      exact ⟨fun hmem => hslash (List.mem_append_left _ hmem), rfl⟩
    · cases h
  · rintro ⟨hid, rfl⟩
    have hslash := slash_not_mem_fileName hid hext
    rw [fileName] at hslash
    rw [if_pos (stands_iff.2 ⟨List.suffix_append _ _, hslash⟩), hfront]

/-- Without an extension every name stands for the empty identifier. -/
theorem idOf?_of_no_extension (hext : store.extension = []) (hname : Path.slash ∉ name) :
    store.idOf? name = some [] := by
  unfold idOf?
  rw [hext, if_pos (stands_iff.2 ⟨List.nil_suffix, hname⟩)]
  rfl

/-! ## The directory -/

/-- The directory of the templates is there, at this location. -/
def OpensAt (store : TemplateStore) (s : Session) (base : Location) : Prop :=
  isUsable store.dir = true ∧ s.tree.locate s.workingDir store.dir = .ok base ∧
    s.tree.find? base = some .dir

theorem outcome_isDir_of_usable {p : Path} (h : isUsable p = true) (s : Session) :
    (isDir p).outcome s = ((s.tree.isDir s.workingDir p).mapError .file, s) := by
  unfold isDir
  rw [if_pos h, outcome_bind_of_ok (outcome_get s), outcome_ofExcept]

/-- In a directory that is there the names of the files are listed. -/
theorem OpensAt.outcome_identifiers (h : store.OpensAt s base) :
    store.identifiers.outcome s
      = (.ok (((fileNames s.tree base).filterMap store.idOf?).mergeSort Text.atMost), s) := by
  obtain ⟨husable, hbase, hdir⟩ := h
  have hisDir : (isDir store.dir).outcome s = (.ok true, s) := by
    rw [outcome_isDir_of_usable husable]
    simp only [FileTree.isDir, FileTree.at?, hbase, hdir]
    rfl
  unfold identifiers
  rw [outcome_bind_of_ok hisDir]
  simp only [Bool.not_true, Bool.false_eq_true, if_false]
  rw [outcome_bind_of_ok (outcome_get s)]
  simp only [hbase, outcome_pure]

/-- Where the directory is not there nothing is listed, or its path is too long to be followed. -/
theorem outcome_identifiers_of_not_opens (h : ∀ base, ¬ store.OpensAt s base) :
    store.identifiers.outcome s = (.ok [], s) ∨
      s.tree.locate s.workingDir store.dir = .error .nameTooLong ∧
        store.identifiers.outcome s
          = (.error (.file (FileFault.of store.dir .nameTooLong)), s) := by
  have hnone (hisDir : (isDir store.dir).outcome s = (.ok false, s)) :
      store.identifiers.outcome s = (.ok [], s) := by
    unfold identifiers
    rw [outcome_bind_of_ok hisDir]
    rfl
  cases husable : isUsable store.dir with
  | false =>
    refine .inl (hnone ?_)
    unfold isDir
    rw [husable]
    rfl
  | true =>
    have hisDir := outcome_isDir_of_usable husable s
    cases hbase : s.tree.locate s.workingDir store.dir with
    | ok base =>
      refine .inl (hnone (hisDir.trans ?_))
      have hdir : s.tree.find? base ≠ some .dir := fun hdir => h base ⟨husable, hbase, hdir⟩
      simp [FileTree.isDir, FileTree.at?, hbase, Except.map, Except.mapError, hdir]
    | error c =>
      rcases FileTree.locate_eq_error hbase with rfl | rfl | rfl
      · refine .inl (hnone (hisDir.trans ?_))
        simp only [FileTree.isDir, FileTree.at?, hbase]
        rfl
      · refine .inl (hnone (hisDir.trans ?_))
        simp only [FileTree.isDir, FileTree.at?, hbase]
        rfl
      · refine .inr ⟨rfl, ?_⟩
        simp only [FileTree.isDir, FileTree.at?, hbase] at hisDir
        exact outcome_bind_of_error hisDir _

/-! ## What is listed -/

/-- These are the identifiers of the templates that lie in a directory. -/
structure Lists (store : TemplateStore) (s : Session) (base : Location) (ids : List Text) :
    Prop where
  sorted : ids.Pairwise fun a b => Text.atMost a b = true
  nodup : ids.Nodup
  /-- they are those whose files are in the directory -/
  mem_iff : ∀ id, id ∈ ids ↔ Path.slash ∉ id ∧
    ∃ octets, s.tree.find? (base ++ [store.fileName id]) = some (.file octets)
  /-- and those that are found by their paths, as long as these are not too long and the file system
  spells the names of the files as the store does -/
  has_iff : ∀ id, Path.slash ∉ id → FileName.spelled (store.fileName id) = store.fileName id →
    ((store.has id).outcome s = (.ok true, s) ↔
      id ∈ ids ∧ FileTree.octetCount (store.location id).text ≤ FileTree.pathLimit)
  /-- any name that can be handed to the system is found as the file system spells it -/
  has_spelled_iff : ∀ id, Path.slash ∉ id → ((store.has id).outcome s = (.ok true, s) ↔
    CanName (store.fileName id) ∧
      (∃ octets, s.tree.find? (base ++ [FileName.spelled (store.fileName id)])
        = some (.file octets)) ∧
      FileTree.octetCount (store.location id).text ≤ FileTree.pathLimit)

/-- The path of a template is the path of the directory with the name of the file behind it, if this
is one. -/
theorem location_eq (hname : Path.ProperSegment (store.fileName id)) :
    store.location id = ⟨store.dir.anchor, store.dir.segments ++ [store.fileName id]⟩ := by
  rw [location, Path.joinText, Path.ofText_of_proper hname]
  rfl

/-- A name without slashes that is no segment is nothing or a dot, and leads nowhere. -/
theorem location_eq_dir (hslash : Path.slash ∉ store.fileName id)
    (hname : ¬ Path.ProperSegment (store.fileName id)) :
    (store.fileName id = [] ∨ store.fileName id = Path.dot) ∧ store.location id = store.dir := by
  have hempty : store.fileName id = [] ∨ store.fileName id = Path.dot := by
    by_contra hneither
    rw [not_or] at hneither
    exact hname ⟨hneither.1, hneither.2, hslash⟩
  have hstay : store.dir.join Path.current = store.dir := by
    simp only [Path.join, Path.current, List.append_nil]
  refine ⟨hempty, ?_⟩
  rw [location]
  rcases hempty with h | h <;> (rw [h]; exact hstay)

/-- A template of the directory is found by its path, if that is not too long. -/
theorem OpensAt.has_iff (h : store.OpensAt s base) (htree : s.tree.WellFormed)
    (hslash : Path.slash ∉ store.fileName id) :
    (store.has id).outcome s = (.ok true, s) ↔
      CanName (store.fileName id) ∧
        (∃ octets, s.tree.find? (base ++ [FileName.spelled (store.fileName id)])
          = some (.file octets)) ∧
        FileTree.octetCount (store.location id).text ≤ FileTree.pathLimit := by
  obtain ⟨husable, hbase, hdir⟩ := h
  rw [has, outcome_isFile_eq_true_iff]
  by_cases hname : Path.ProperSegment (store.fileName id)
  · rw [location_eq hname]
    simp only [htree.readFile_iff hbase hdir]
    rw [isUsable_iff_segments] at husable ⊢
    constructor
    · rintro ⟨hnames, octets, hlength, hfile⟩
      exact ⟨hnames _ (List.mem_append_right _ (List.mem_singleton_self _)), ⟨octets, hfile⟩,
        hlength⟩
    · rintro ⟨hcan, ⟨octets, hfile⟩, hlength⟩
      exact ⟨List.forall_mem_append.2 ⟨husable, List.forall_mem_singleton.2 hcan⟩, octets, hlength,
        hfile⟩
  · -- no file has such a name, and the path is that of the directory
    obtain ⟨hempty, hlocation⟩ := location_eq_dir hslash hname
    have hspelled : FileName.spelled (store.fileName id) = store.fileName id := by
      rcases hempty with h | h <;> (rw [h]; exact FileName.spelled_of_whole (by decide))
    rw [hlocation, hspelled]
    refine iff_of_false ?_ ?_
    · rintro ⟨-, octets, hread⟩
      obtain ⟨l, hl, hfile⟩ := FileTree.readFile_eq_ok_iff.1 hread
      obtain rfl := Except.ok.inj (hbase.symm.trans hl)
      rw [hdir] at hfile
      cases hfile
    · rintro ⟨-, ⟨octets, hfile⟩, -⟩
      exact hname (htree.isFileName hfile).1

/-- What is listed with an extension: the identifiers of the files in the directory. -/
theorem mem_listed_iff (htree : s.tree.WellFormed) (hext : Path.slash ∉ store.extension)
    (hne : store.extension ≠ []) :
    id ∈ ((fileNames s.tree base).filterMap store.idOf?).mergeSort Text.atMost ↔
      Path.slash ∉ id ∧
        ∃ octets, s.tree.find? (base ++ [store.fileName id]) = some (.file octets) := by
  rw [List.mem_mergeSort, List.mem_filterMap]
  simp only [idOf?_eq_some_iff hext hne]
  constructor
  · rintro ⟨name, hname, hid, rfl⟩
    exact ⟨hid, (FileTree.mem_fileNames_iff htree.nodup).1 hname⟩
  · rintro ⟨hid, hfile⟩
    exact ⟨_, (FileTree.mem_fileNames_iff htree.nodup).2 hfile, hid, rfl⟩

theorem lists_of_extension (h : store.OpensAt s base) (htree : s.tree.WellFormed)
    (hext : Path.slash ∉ store.extension) (hne : store.extension ≠ []) :
    Lists store s base (((fileNames s.tree base).filterMap store.idOf?).mergeSort Text.atMost) where
  sorted := Text.pairwise_mergeSort _
  nodup := by
    rw [(List.mergeSort_perm _ _).nodup_iff, List.Nodup, List.pairwise_filterMap]
    refine (FileTree.nodup_fileNames htree.nodup base).imp ?_
    -- the same identifier stands for the same file
    intro name name' hnames id hid id' hid' heq
    rw [((idOf?_eq_some_iff hext hne).1 hid).2, ((idOf?_eq_some_iff hext hne).1 hid').2,
      heq] at hnames
    exact hnames rfl
  mem_iff _ := mem_listed_iff htree hext hne
  has_iff id hid hspelled := by
    rw [h.has_iff htree (slash_not_mem_fileName hid hext), hspelled,
      mem_listed_iff htree hext hne, and_iff_right hid]
    refine and_iff_right_of_imp ?_
    rintro ⟨⟨octets, hfile⟩, -⟩
    exact (htree.isFileName hfile).2.2.2.1
  has_spelled_iff _ hid := h.has_iff htree (slash_not_mem_fileName hid hext)

/-- What is listed without an extension: the empty identifier, as often as there are files. -/
theorem listed_of_no_extension (htree : s.tree.WellFormed) (hext : store.extension = [])
    (base : Location) :
    ((fileNames s.tree base).filterMap store.idOf?).mergeSort Text.atMost
      = List.replicate (fileNames s.tree base).length [] := by
  have hslash : ∀ name ∈ fileNames s.tree base, Path.slash ∉ name := by
    intro name hname
    obtain ⟨octets, hfile⟩ := (FileTree.mem_fileNames_iff htree.nodup).1 hname
    exact (htree.isFileName hfile).1.2.2
  have hall : (fileNames s.tree base).filterMap store.idOf?
      = (fileNames s.tree base).map fun _ => [] := by
    rw [← List.filterMap_eq_map]
    exact List.filterMap_congr fun name hname => idOf?_of_no_extension hext (hslash name hname)
  rw [hall, List.map_const']
  exact List.perm_replicate.1 (List.mergeSort_perm _ _)

/-- A store with an extension lists the identifiers of its directory, in order and each of them
once; without an extension it lists the empty identifier for every file.  Where its directory is not
there it lists nothing, unless the path of the directory is too long to be followed. -/
theorem identifiers_list (htree : s.tree.WellFormed) (hext : Path.slash ∉ store.extension) :
    (∀ base, store.OpensAt s base → ∃ ids, store.identifiers.outcome s = (.ok ids, s) ∧
      (store.extension ≠ [] → Lists store s base ids) ∧
      (store.extension = [] → ∃ names : List Text, names.Nodup ∧
        (∀ name, name ∈ names ↔ ∃ octets, s.tree.find? (base ++ [name]) = some (.file octets)) ∧
          ids = List.replicate names.length [])) ∧
    ((∀ base, ¬ store.OpensAt s base) →
      store.identifiers.outcome s = (.ok [], s) ∨
        s.tree.locate s.workingDir store.dir = .error .nameTooLong ∧
          store.identifiers.outcome s
            = (.error (.file (FileFault.of store.dir .nameTooLong)), s)) := by
  refine ⟨fun base hopens => ?_, outcome_identifiers_of_not_opens⟩
  refine ⟨_, hopens.outcome_identifiers, lists_of_extension hopens htree hext, fun hnone => ?_⟩
  exact ⟨fileNames s.tree base, FileTree.nodup_fileNames htree.nodup base,
    fun _ => FileTree.mem_fileNames_iff htree.nodup, listed_of_no_extension htree hnone base⟩

/-! ### A directory of templates -/

/-- Files with and without the extension, one that is named by the extension alone, and one in a
directory below. -/
def shelfSession : Session :=
  .start ⟨[(["tpl"], .dir), (["tpl", "b.js"], .file []), (["tpl", "a.js"], .file []),
    (["tpl", ".js"], .file []), (["tpl", "notes"], .file []), (["tpl", "sub"], .dir),
    (["tpl", "sub", "c.js"], .file [])]⟩ [] ⟨.root, ["templates"]⟩ []

/-- The store of these templates with an extension. -/
def shelf (extension : Text) : TemplateStore := ⟨⟨.here, ["tpl"]⟩, "$&", extension⟩

/-- Three templates are listed: the empty identifier first, and none from below. -/
theorem identifiers_list_shelf :
    shelfSession.tree.WellFormed ∧ Path.slash ∉ (shelf ".js").extension ∧
      (shelf ".js").OpensAt shelfSession ["tpl"] ∧
      (shelf ".js").identifiers.outcome shelfSession = (.ok [[], "a", "b"], shelfSession) ∧
      Lists (shelf ".js") shelfSession ["tpl"] [[], "a", "b"] := by
  have htree : shelfSession.tree.WellFormed := by decide +kernel
  have hext : Path.slash ∉ (shelf ".js").extension := by decide
  have hopens : (shelf ".js").OpensAt shelfSession ["tpl"] :=
    ⟨by decide, by decide +kernel, by decide⟩
  obtain ⟨ids, hids, hlists, -⟩ := (identifiers_list htree hext).1 ["tpl"] hopens
  have hfiles : (fileNames shelfSession.tree ["tpl"]).filterMap (shelf ".js").idOf?
      = [("b" : Text), "a", []] := by decide +kernel
  have hsorted : [("b" : Text), "a", []].mergeSort Text.atMost = [[], "a", "b"] :=
    Text.mergeSort_eq (by decide) (by decide)
  obtain rfl : ids = [[], "a", "b"] := by
    rw [hopens.outcome_identifiers, hfiles, hsorted] at hids
    exact (Except.ok.inj (Prod.mk.inj hids).1).symm
  exact ⟨htree, hext, hopens, hids, hlists (by decide)⟩

/-- Without an extension the empty identifier is listed for each of the four files. -/
theorem exists_listing_without_identifiers :
    shelfSession.tree.WellFormed ∧ Path.slash ∉ (shelf []).extension ∧
      (shelf []).OpensAt shelfSession ["tpl"] ∧
      (shelf []).identifiers.outcome shelfSession = (.ok [[], [], [], []], shelfSession) ∧
      ¬ Lists (shelf []) shelfSession ["tpl"] [[], [], [], []] := by
  have htree : shelfSession.tree.WellFormed := by decide +kernel
  have hopens : (shelf []).OpensAt shelfSession ["tpl"] :=
    ⟨by decide, by decide +kernel, by decide⟩
  refine ⟨htree, by decide, hopens, ?_, fun hlists => absurd hlists.nodup (by decide)⟩
  rw [hopens.outcome_identifiers, listed_of_no_extension htree rfl]
  rfl

end TemplateStore

end DashboardKit
