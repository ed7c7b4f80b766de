import DashboardKit.Proofs.Session.Rereading

/-!
# Saving a document and loading it again

Saving makes the directories above a path and puts the text of the document there.  A document that
can be written and encoded is saved wherever a file can be made.  If floating-point numbers are left
out, which are the only atoms that may come back changed, it is loaded from there as it was saved.

Main statement: `loadJson_saveJson`.
-/

set_option autoImplicit false

namespace DashboardKit

/-! ## Plain values -/

/-- A value made of nothing, truth values, integers within the digit limit and whole texts, of
lists, and of maps under whole texts that are all different. -/
inductive Value.Plain : Value → Prop where
  | null : Plain .null
  | bool (b : Bool) : Plain (.bool b)
  | int {n : Int} : Decimal.exceedsLimit n = false → Plain (.int n)
  | text {t : Text} : t.Whole → Plain (.text t)
  | list {items : List Value} : (∀ v ∈ items, Plain v) → Plain (.list items)
  | map {entries : List (Atom × Value)} : (entries.map (·.1)).Nodup →
      (∀ e ∈ entries, ∃ t, e.1 = .text t ∧ t.Whole) → (∀ e ∈ entries, Plain e.2) →
      Plain (.map entries)

namespace Value

variable {v : Value}

theorem Plain.document (h : v.Plain) : v.Document Text.Whole := by
  induction h with
  | null => exact .atom trivial
  | bool b => exact .atom trivial
  | int hn => exact .atom hn
  | text ht => exact .atom ht
  | list _ ih => exact .list ih
  | map hnodup hkeys _ ih => exact .map hnodup hkeys ih

theorem Plain.whole (h : v.Plain) : v.Whole := h.document.whole

theorem Plain.floatFree (h : v.Plain) : v.FloatFree := by
  induction h with
  | null => exact .atom nofun
  | bool b => exact .atom nofun
  | int hn => exact .atom nofun
  | text ht => exact .atom nofun
  | list _ ih => exact .list ih
  | map _ _ _ ih => exact .map ih

/-- What is read back is the value itself: only floating-point numbers could come back changed. -/
theorem Plain.reread_eq (h : v.Plain) : v.reread = v := h.floatFree.reread_eq

end Value

/-! ## Saving -/

/-- A file with these octets can be made at a path: the directories above it are there or can be
made, the path then leads to a place in a directory that is no directory itself, and the disk takes
the octets there. -/
def Session.Takes (s : Session) (p : Path) (octets : Utf8.Octets) : Prop :=
  Action.isUsable p = true ∧ ∃ tree l,
    s.tree.makeDirs s.disk s.workingDir p.parent = (tree, .ok ()) ∧
      tree.target s.workingDir p = .ok l ∧ s.disk.fault? l octets = none

namespace Action

variable {v : Value} {p : Path} {s s' : Session}

/-- A document that can be written and encoded is saved by making directories and writing octets. -/
theorem outcome_saveJson_eq {t : Text} {octets : Utf8.Octets} (htext : fileText v = .ok t)
    (hencode : Utf8.encode t = .ok octets) (p : Path) (s : Session) :
    (saveJson v p).outcome s = (do makeDirs p.parent; writeFile p octets).outcome s := by
  unfold saveJson
  rw [outcome_bind, outcome_bind, htext]
  rcases (makeDirs p.parent).outcome s with ⟨f | u, mid⟩
  · rfl
  · simp only
    rw [outcome_bind_of_ok (outcome_ofExcept_eq_ok.2 ⟨rfl, rfl⟩), writeText_of_encode hencode]

/-- Octets are written, with directories made above them, exactly where a file with them can be
made. -/
theorem exists_outcome_writeFile_iff (octets : Utf8.Octets) :
    (∃ s', (do makeDirs p.parent; writeFile p octets).outcome s = (.ok (), s')) ↔
      s.Takes p octets := by
  constructor
  · rintro ⟨s', hrun⟩
    obtain ⟨_, mid, hdirs, hwrite⟩ := outcome_bind_eq_ok.1 hrun
    obtain ⟨husable, l, htarget, hfault, -⟩ := writeFile_eq_ok_iff.1 hwrite
    rw [outcome_makeDirs_of_usable (isUsable_parent husable)] at hdirs
    rcases hmake : s.tree.makeDirs s.disk s.workingDir p.parent with ⟨tree, fault | ⟨⟩⟩ <;>
      rw [hmake] at hdirs <;> cases hdirs
    exact ⟨husable, tree, l, hmake, htarget, hfault⟩
  · rintro ⟨husable, tree, l, hmake, htarget, hfault⟩
    have hdirs : (makeDirs p.parent).outcome s = (.ok (), { s with tree }) := by
      rw [outcome_makeDirs_of_usable (isUsable_parent husable), hmake]
      rfl
    refine ⟨Session.holding { s with tree } l octets, ?_⟩
    rw [outcome_bind_of_ok hdirs]
    exact writeFile_eq_ok_iff.2 ⟨husable, l, htarget, hfault, rfl⟩

/-- A document made of nothing, truth values, integers, texts, lists and maps is saved at every path
where a file with its octets can be made, and loading it from there gives the document back: the
same texts, the same numbers, the same entries in the same order. -/
theorem loadJson_saveJson (hv : v.Plain) (p : Path) (s : Session) :
    ((∃ s', (saveJson v p).outcome s = (.ok (), s')) ↔ s.Takes p (documentOctets v)) ∧
      ∀ s', (saveJson v p).outcome s = (.ok (), s') →
        (loadJson p).outcome s' = (.ok v, s') := by
  obtain ⟨t, htext, hwhole⟩ := exists_fileText hv.document.writable
  obtain ⟨octets, hencode⟩ := Text.exists_encode_iff.2 (hwhole.2 hv.whole)
  rw [outcome_saveJson_eq htext hencode, documentOctets_of_text htext,
    textOctets_of_encode hencode]
  refine ⟨exists_outcome_writeFile_iff octets, ?_⟩
  intro s' hrun
  obtain ⟨-, mid, -, hwrite⟩ := outcome_bind_eq_ok.1 hrun
  have husable : isUsable p = true :=
    ((exists_outcome_writeFile_iff octets).1 ⟨s', hrun⟩).1
  have hholds : s'.HoldsDocument p v := ⟨t, octets, htext, hencode, writeFile_eq_ok hwrite⟩
  rw [outcome_loadJson_of_holds (hholds.holdsJson husable hv.document), hv.reread_eq]
  rfl

/-! ### A nested document -/

/-- A text with what a string has to escape and with what it leaves alone: an octet of nothing, a
quote, a backslash, a line break of two characters, a separator of lines and a character past the
first plane. -/
def awkwardText : Text :=
  [.ofNat 0, .scalar '"', .scalar '\\', .scalar '\r', .scalar '\n', .ofNat 0x2028, .ofNat 0x1f600]

/-- A document with that text as a key and as a value, with empty collections inside others. -/
def nestedDocument : Value :=
  .map [(.text awkwardText, .list [.null, .bool true, .int (-40), .list [], .map []]),
    (.text [], .map [(.text "items", .text awkwardText)])]

theorem plain_nestedDocument : nestedDocument.Plain := by
  have hawkward : awkwardText.Whole := by decide
  refine .map (by decide) ?_ ?_
  · simp only [List.forall_mem_cons]
    exact ⟨⟨_, rfl, hawkward⟩, ⟨_, rfl, by decide⟩, List.forall_mem_nil _⟩
  · simp only [List.forall_mem_cons]
    refine ⟨.list ?_, .map (by decide) ?_ ?_, List.forall_mem_nil _⟩
    · simp only [List.forall_mem_cons]
      exact ⟨.null, .bool true, .int (by decide +kernel), .list (List.forall_mem_nil _),
        .map (by decide) (List.forall_mem_nil _) (List.forall_mem_nil _), List.forall_mem_nil _⟩
    · exact List.forall_mem_singleton.2 ⟨_, rfl, by decide⟩
    · exact List.forall_mem_singleton.2 (.text hawkward)

/-- A path into a directory that is not there yet. -/
def nestedPath : Path := ⟨.here, ["data", "nested.json"]⟩

/-- A project without files, in which a directory has to be made for the document. -/
def emptyProject : Session :=
  .start ⟨[(["project"], .dir)]⟩ ["project"] ⟨.root, ["templates"]⟩ []

/-- The nested document is saved in a directory that is made for it, and loaded again. -/
theorem loadJson_saveJson_nestedDocument :
    nestedDocument.Plain ∧ emptyProject.Takes nestedPath (documentOctets nestedDocument) ∧
      ∃ s', (saveJson nestedDocument nestedPath).outcome emptyProject
          = (.ok (), s') ∧
        (loadJson nestedPath).outcome s' = (.ok nestedDocument, s') := by
  have htakes : emptyProject.Takes nestedPath (documentOctets nestedDocument) :=
    ⟨by decide, (emptyProject.tree.makeDirs .sound emptyProject.workingDir nestedPath.parent).1,
      ["project", "data", "nested.json"], Prod.ext rfl (by decide +kernel), by decide +kernel, rfl⟩
  obtain ⟨hsaves, hloads⟩ :=
    loadJson_saveJson plain_nestedDocument nestedPath emptyProject
  obtain ⟨s', hrun⟩ := hsaves.2 htakes
  exact ⟨plain_nestedDocument, htakes, s', hrun, hloads s' hrun⟩

end Action

end DashboardKit
