import DashboardKit.Proofs.FileTree.Rewriting
import DashboardKit.Proofs.Json.Writable
import DashboardKit.Proofs.Session.Files
import DashboardKit.Proofs.Text.Whole

/-!
# Reading and writing documents in a session

Loading a document fails because of its path, the file system, the octets of the file or the text
they spell, in this order.  A document that can be written goes over a file that is there if the
disk takes it; if it holds a lone surrogate, it does not, and the file is left empty.

Main statements: `outcome_loadJson_of_holds` and `savesOver_saveJson`.
-/

set_option autoImplicit false

namespace DashboardKit

/-- A file can be read as text, and this is what comes of reading the text as a document. -/
def Session.HoldsJson (s : Session) (p : Path) (x : Except Json.ReadFault Value) : Prop :=
  Action.isUsable p = true ∧ ∃ octets cs, s.tree.readFile s.workingDir p = .ok octets ∧
    Utf8.read octets = .ok cs ∧ Json.read cs = x

/-- A file is read as one thing only. -/
theorem Session.HoldsJson.unique {s : Session} {p : Path} {x y : Except Json.ReadFault Value}
    (hx : s.HoldsJson p x) (hy : s.HoldsJson p y) : x = y := by
  obtain ⟨-, octets, cs, hread, hdecode, rfl⟩ := hx
  obtain ⟨-, octets', cs', hread', hdecode', rfl⟩ := hy
  rw [hread, Except.ok.injEq] at hread'
  subst hread'
  rw [hdecode, Except.ok.injEq] at hdecode'
  rw [hdecode']

/-- What is read of a file is settled by its octets. -/
theorem Session.HoldsJson.of_reads {s s' : Session} {p : Path} {x : Except Json.ReadFault Value}
    (h : s.HoldsJson p x)
    (hreads : ∀ octets, s.tree.readFile s.workingDir p = .ok octets →
      s'.tree.readFile s'.workingDir p = .ok octets) : s'.HoldsJson p x := by
  obtain ⟨husable, octets, cs, hread, hdecode⟩ := h
  exact ⟨husable, octets, cs, hreads octets hread, hdecode⟩

/-- A file holds a document as it is written. -/
def Session.HoldsDocument (s : Session) (p : Path) (v : Value) : Prop :=
  ∃ t octets, Action.fileText v = .ok t ∧ Utf8.encode t = .ok octets ∧
    s.tree.readFile s.workingDir p = .ok octets

/-- Calling the package manager leaves documents where they are. -/
theorem Session.HoldsDocument.of_callsTo {s s' : Session} {p : Path} {v : Value}
    {calls : List InstallCall} (h : s.HoldsDocument p v) (hcalls : CallsTo calls s s') :
    s'.HoldsDocument p v := by
  unfold CallsTo at hcalls
  rw [hcalls]
  exact h

namespace Action

open Session

variable {p : Path} {s : Session}

/-! ## Loading -/

theorem outcome_loadJson_of_not_usable (h : isUsable p = false) (s : Session) :
    ∃ f, (loadJson p).outcome s = (.error f, s) ∧
      ((∃ fault, f = .unencodable p.text fault) ∨ f = .nulInPath) := by
  obtain ⟨f, hread, hf⟩ := outcome_readFile_of_not_usable h s
  exact ⟨f, outcome_bind_of_error (outcome_bind_of_error hread _) _, hf⟩

theorem outcome_loadJson_of_fault {fault : FileFault} (h : isUsable p = true)
    (hread : s.tree.readFile s.workingDir p = .error fault) :
    (loadJson p).outcome s = (.error (.file fault), s) := by
  have hfile : (readFile p).outcome s = (.error (.file fault), s) := by
    rw [outcome_readFile_of_usable h, hread]
    rfl
  exact outcome_bind_of_error (outcome_bind_of_error hfile _) _

theorem outcome_readText {octets : Utf8.Octets} (h : isUsable p = true)
    (hread : s.tree.readFile s.workingDir p = .ok octets) :
    (readText p).outcome s
      = ((Utf8.read octets).mapError fun fault => .undecodable ⟨fault, octets⟩, s) := by
  have hfile : (readFile p).outcome s = (.ok octets, s) :=
    outcome_readFile_eq_ok_iff.2 ⟨h, hread, rfl⟩
  rw [readText, outcome_bind_of_ok hfile, decode, outcome_ofExcept]

theorem outcome_loadJson_of_undecodable {octets : Utf8.Octets} {fault : Utf8.DecodeFault}
    (h : isUsable p = true) (hread : s.tree.readFile s.workingDir p = .ok octets)
    (hdecode : Utf8.read octets = .error fault) :
    (loadJson p).outcome s = (.error (.undecodable ⟨fault, octets⟩), s) := by
  refine outcome_bind_of_error ?_ _
  rw [outcome_readText h hread, hdecode]
  rfl

/-- Loading a document comes to what the text of the file is read as. -/
theorem outcome_loadJson_of_holds {x : Except Json.ReadFault Value} (h : s.HoldsJson p x) :
    (loadJson p).outcome s = (x.mapError .ofJson, s) := by
  obtain ⟨husable, octets, cs, hread, hdecode, rfl⟩ := h
  have htext : (readText p).outcome s = (.ok cs, s) := by
    rw [outcome_readText husable hread, hdecode]
    rfl
  rw [loadJson, outcome_bind_of_ok htext, outcome_ofExcept]

/-- What is loaded is what the text of the file is read as. -/
theorem holds_of_loadJson {v : Value} {s' : Session}
    (h : (loadJson p).outcome s = (.ok v, s')) : s.HoldsJson p (.ok v) := by
  obtain ⟨cs, mid, htext, hjson⟩ := outcome_bind_eq_ok.1 h
  obtain ⟨octets, mid', hfile, hdecode⟩ := outcome_bind_eq_ok.1 htext
  obtain ⟨husable, hread, -⟩ := outcome_readFile_eq_ok_iff.1 hfile
  exact ⟨husable, octets, cs, hread, (outcome_ofExcept_eq_ok.1 hdecode).1,
    (outcome_ofExcept_eq_ok.1 hjson).1⟩

/-! ## Saving -/

/-- Nothing has to be made above a file that is there. -/
theorem outcome_makeDirs_parent {octets : Utf8.Octets} (h : isUsable p = true)
    (hcwd : s.tree.find? s.workingDir = some .dir)
    (hread : s.tree.readFile s.workingDir p = .ok octets) :
    (makeDirs p.parent).outcome s = (.ok (), s) := by
  rw [outcome_makeDirs_of_usable (isUsable_parent h),
    FileTree.makeDirs_parent_eq (fun _ => hcwd) hread]
  rfl

theorem exists_fileText {v : Value} (h : v.Writable) :
    ∃ t, fileText v = .ok t ∧ (t.Whole ↔ v.Whole) := by
  obtain ⟨t, ht⟩ := (Json.exists_write_iff .file v).2 h
  refine ⟨t ++ [.scalar '\n'], by rw [fileText, ht]; rfl, ?_⟩
  have hbreak : Text.Whole [.scalar '\n'] := by decide
  rw [Text.whole_append, Json.whole_write_iff ht]
  simp [Json.Style.file, hbreak]

/-- The octets that saving a document puts into a file. -/
def documentOctets (v : Value) : Utf8.Octets := ((fileText v).toOption.map textOctets).getD []

theorem documentOctets_of_text {v : Value} {t : Text} (h : fileText v = .ok t) :
    documentOctets v = textOctets t := by
  rw [documentOctets, h]
  rfl

/-- Nothing is written of a document that cannot be encoded. -/
theorem documentOctets_of_not_whole {v : Value} (hv : v.Writable) (h : ¬ v.Whole) :
    documentOctets v = [] := by
  obtain ⟨t, ht, hwhole⟩ := exists_fileText hv
  rw [documentOctets_of_text ht, textOctets]
  cases hencode : Utf8.encode t with
  | ok octets => exact absurd (hwhole.1 (Text.exists_encode_iff.1 ⟨octets, hencode⟩)) h
  | error fault => rfl

/-- A file holds a document as it is written if these are its octets. -/
theorem holdsDocument_of_reads {v : Value} {t : Text} (ht : fileText v = .ok t) (hwhole : t.Whole)
    (hread : s.tree.readFile s.workingDir p = .ok (documentOctets v)) : s.HoldsDocument p v := by
  obtain ⟨octets, hencode⟩ := Text.exists_encode_iff.2 hwhole
  rw [documentOctets_of_text ht, textOctets_of_encode hencode] at hread
  exact ⟨t, octets, ht, hencode, hread⟩

/-- What becomes of a document that is saved over the file at a path: what comes of saving it, and
the session afterwards. -/
inductive SavesOver (s : Session) (p : Path) (v : Value) :
    Except Failure Unit → Session → Prop where
  /-- the disk lets the file be what it is -/
  | refused {fault : FileFault} :
      s.diskFault? p (documentOctets v) = some (.refused fault) →
      SavesOver s p v (.error (.file fault)) s
  /-- the disk takes no more than so many octets -/
  | brokenOff {count : Nat} {fault : FileFault} {s' : Session} :
      s.diskFault? p (documentOctets v) = some (.brokenOff count fault) → WritesTo s s' →
      s'.tree.readFile s'.workingDir p = .ok ((documentOctets v).take count) →
      SavesOver s p v (.error (.file fault)) s'
  /-- the file is emptied before the text turns out not to be encodable -/
  | emptied {t : Text} {fault : Utf8.EncodeFault} {s' : Session} :
      s.diskFault? p (documentOctets v) = none → ¬ v.Whole → WritesTo s s' →
      s'.tree.readFile s'.workingDir p = .ok [] →
      SavesOver s p v (.error (.unencodable t fault)) s'
  | written {s' : Session} :
      s.diskFault? p (documentOctets v) = none → v.Whole → WritesTo s s' →
      s'.HoldsDocument p v → SavesOver s p v (.ok ()) s'

/-- A document that can be written is saved over a file that is there, if the disk takes it and it
can be encoded. -/
theorem savesOver_saveJson {v : Value} {octets : Utf8.Octets} {x : Except Failure Unit}
    {s' : Session} (h : isUsable p = true) (hcwd : s.tree.find? s.workingDir = some .dir)
    (hread : s.tree.readFile s.workingDir p = .ok octets) (hv : v.Writable)
    (hrun : (saveJson v p).outcome s = (x, s')) : SavesOver s p v x s' := by
  obtain ⟨t, ht, hwhole⟩ := exists_fileText hv
  obtain ⟨l, htarget⟩ := FileTree.exists_target_of_readFile hread
  have hoctets := documentOctets_of_text ht
  have hfault : s.diskFault? p (documentOctets v) = s.disk.fault? l (documentOctets v) := by
    rw [diskFault?, htarget]
  have hwrite := outcome_writeFile_of_target h htarget (documentOctets v)
  have hsave : (saveJson v p).outcome s = (writeText p t).outcome s := by
    rw [saveJson, outcome_bind_of_ok (outcome_makeDirs_parent h hcwd hread), ht]
    rfl
  rw [hsave, writeText_eq_bind, ← hoctets] at hrun
  rcases hdisk : s.disk.fault? l (documentOctets v) with _ | fault | ⟨count, fault⟩ <;>
    rw [hdisk] at hfault hwrite
  · -- the octets are there, and whether they are the document's is told by its text
    have hholding := readFile_holding htarget (documentOctets v)
    rw [outcome_bind_of_ok hwrite] at hrun
    cases hencode : Utf8.encode t with
    | ok octets' =>
      rw [hencode] at hrun
      cases hrun
      have htext : t.Whole := Text.exists_encode_iff.1 ⟨octets', hencode⟩
      exact .written hfault (hwhole.1 htext) rfl (holdsDocument_of_reads ht htext hholding)
    | error fault =>
      rw [hencode] at hrun
      cases hrun
      have hnotWhole : ¬ v.Whole := fun hv' => by
        obtain ⟨octets', hok⟩ := Text.exists_encode_iff.2 (hwhole.2 hv')
        rw [hencode] at hok
        cases hok
      have hempty := documentOctets_of_not_whole hv hnotWhole
      rw [hempty] at hholding hfault
      rw [hempty]
      exact .emptied (by rwa [hempty]) hnotWhole rfl hholding
  · rw [outcome_bind_of_error hwrite] at hrun
    cases hrun
    exact .refused hfault
  · rw [outcome_bind_of_error hwrite] at hrun
    cases hrun
    exact .brokenOff hfault rfl (readFile_holding htarget _)

end Action

end DashboardKit
