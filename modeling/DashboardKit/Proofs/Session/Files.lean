import DashboardKit.Proofs.Session.Paths

/-!
# Reading and writing files in a session

For a path that can be handed to the file system reading is what the file tree says.  Octets that
are written find no place for a file, or the disk refuses them, breaks off, or takes them whole;
only these are a file that was written, and a text that was written is read back.

Main statements: `outcome_readFile_eq_ok_iff`, `outcome_writeFile_of_target` and `writeText_eq_ok`.
-/

set_option autoImplicit false

namespace DashboardKit

/-- A path leads to a file exactly if the file can be read. -/
theorem FileTree.isFile_toOption (t : FileTree) (cwd : Location) (p : Path) :
    (t.isFile cwd p).toOption.getD false = (t.readFile cwd p).toOption.isSome := by
  unfold FileTree.isFile FileTree.at? FileTree.readFile
  cases t.locate cwd p with
  | error c => cases c <;> rfl
  | ok l =>
    cases hfind : t.find? l with
    | none => simp [hfind, Except.map, Except.toOption]
    | some e => cases e <;> simp [hfind, Except.map, Except.toOption]

namespace Session

/-- The session with a file that holds these octets. -/
def holding (s : Session) (l : Location) (octets : Utf8.Octets) : Session :=
  { s with tree := s.tree.put l (.file octets) }

end Session

namespace Action

open Session

variable {p : Path} {s : Session}

/-! ## Reading -/

theorem outcome_readFile_of_usable (h : isUsable p = true) (s : Session) :
    (readFile p).outcome s = ((s.tree.readFile s.workingDir p).mapError .file, s) := by
  unfold readFile
  rw [outcome_bind_of_ok (outcome_checkPath_of_usable h s), outcome_bind_of_ok (outcome_get s),
    outcome_ofExcept]

theorem outcome_readFile_of_not_usable (h : isUsable p = false) (s : Session) :
    ∃ f, (readFile p).outcome s = (.error f, s) ∧
      ((∃ fault, f = .unencodable p.text fault) ∨ f = .nulInPath) := by
  obtain ⟨f, hcheck, hf⟩ := outcome_checkPath_of_not_usable h s
  exact ⟨f, outcome_bind_of_error hcheck _, hf⟩

/-- A file is read exactly if its path can be handed to the file system and leads to it. -/
theorem outcome_readFile_eq_ok_iff {s s' : Session} {octets : Utf8.Octets} :
    (readFile p).outcome s = (.ok octets, s') ↔
      isUsable p = true ∧ s.tree.readFile s.workingDir p = .ok octets ∧ s' = s := by
  cases h : isUsable p with
  | false =>
    obtain ⟨f, hread, -⟩ := outcome_readFile_of_not_usable h s
    simp [hread]
  | true =>
    rw [outcome_readFile_of_usable h, Prod.mk.injEq, mapError_eq_ok, @eq_comm _ s,
      and_iff_right rfl]

/-- A path that is read leads to a file. -/
theorem outcome_isFile_of_reads {s : Session} {octets : Utf8.Octets} (h : isUsable p = true)
    (hread : s.tree.readFile s.workingDir p = .ok octets) :
    (isFile p).outcome s = (.ok true, s) := by
  have hfile := FileTree.isFile_toOption s.tree s.workingDir p
  rw [isFile, if_pos h, outcome_bind_of_ok (outcome_get s), outcome_ofExcept]
  cases hisFile : s.tree.isFile s.workingDir p with
  | error fault => simp [hisFile, hread, Except.toOption] at hfile
  | ok b =>
    obtain rfl : b = true := by simpa [hisFile, hread, Except.toOption] using hfile
    rfl

/-- A path leads to a file exactly if the file can be read. -/
theorem outcome_isFile_eq_true_iff {s : Session} :
    (isFile p).outcome s = (.ok true, s) ↔
      isUsable p = true ∧ ∃ octets, s.tree.readFile s.workingDir p = .ok octets := by
  constructor
  · intro h
    unfold isFile at h
    cases husable : isUsable p with
    | false =>
      rw [husable] at h
      cases h
    | true =>
      rw [if_pos husable, outcome_bind_of_ok (outcome_get s)] at h
      obtain ⟨hfile, -⟩ := outcome_ofExcept_eq_ok.1 h
      have hread := FileTree.isFile_toOption s.tree s.workingDir p
      rw [hfile] at hread
      refine ⟨rfl, ?_⟩
      cases hoctets : s.tree.readFile s.workingDir p with
      | ok octets => exact ⟨octets, rfl⟩
      | error fault => simp [hoctets, Except.toOption] at hread
  · rintro ⟨husable, octets, hread⟩
    exact outcome_isFile_of_reads husable hread

/-- Making directories is what the file tree says; what was made before a failure stays. -/
theorem outcome_makeDirs_of_usable (h : isUsable p = true) (s : Session) :
    (makeDirs p).outcome s
      = ((s.tree.makeDirs s.disk s.workingDir p).2.mapError .file,
          { s with tree := (s.tree.makeDirs s.disk s.workingDir p).1 }) := by
  unfold makeDirs
  rw [outcome_bind_of_ok (outcome_checkPath_of_usable h s), outcome_bind_of_ok (outcome_get s),
    outcome_bind_of_ok (outcome_set _ s), outcome_ofExcept]

/-! ## Writing -/

/-- Octets find no place for a file. -/
theorem outcome_writeFile_of_no_target {fault : FileFault} (h : isUsable p = true)
    (htarget : s.tree.target s.workingDir p = .error fault) (octets : Utf8.Octets) :
    (writeFile p octets).outcome s = (.error (.file fault), s) := by
  have hfault : s.diskFault? p octets = none := by rw [diskFault?, htarget]
  unfold writeFile
  rw [outcome_bind_of_ok (outcome_checkPath_of_usable h s), outcome_bind_of_ok (outcome_get s),
    hfault, putFile, outcome_bind_of_ok (outcome_get s), FileTree.writeFile, htarget]
  rfl

/-- What becomes of octets for which there is a place is up to the disk. -/
theorem outcome_writeFile_of_target {l : Location} (h : isUsable p = true)
    (htarget : s.tree.target s.workingDir p = .ok l) (octets : Utf8.Octets) :
    (writeFile p octets).outcome s =
      match s.disk.fault? l octets with
      | none => (.ok (), s.holding l octets)
      | some (.refused fault) => (.error (.file fault), s)
      | some (.brokenOff count fault) =>
        (.error (.file fault), s.holding l (octets.take count)) := by
  have hput (octets : Utf8.Octets) :
      (putFile p octets).outcome s = (.ok (), s.holding l octets) := by
    rw [putFile, outcome_bind_of_ok (outcome_get s), FileTree.writeFile, htarget]
    rfl
  have hfault : s.diskFault? p octets = s.disk.fault? l octets := by rw [diskFault?, htarget]
  unfold writeFile
  rw [outcome_bind_of_ok (outcome_checkPath_of_usable h s), outcome_bind_of_ok (outcome_get s),
    hfault]
  rcases s.disk.fault? l octets with _ | fault | ⟨count, fault⟩
  · exact hput octets
  · rfl
  · exact outcome_bind_of_ok (hput _) _

/-- Octets are written where there is a place for a file and the disk takes them. -/
theorem writeFile_eq_ok_iff {s s' : Session} {octets : Utf8.Octets} :
    (writeFile p octets).outcome s = (.ok (), s') ↔
      isUsable p = true ∧ ∃ l, s.tree.target s.workingDir p = .ok l ∧
        s.disk.fault? l octets = none ∧ s' = s.holding l octets := by
  cases husable : isUsable p with
  | false =>
    obtain ⟨f, hcheck, -⟩ := outcome_checkPath_of_not_usable husable s
    unfold writeFile
    rw [outcome_bind_of_error hcheck]
    exact iff_of_false nofun nofun
  | true =>
    rw [and_iff_right rfl]
    cases htarget : s.tree.target s.workingDir p with
    | error fault =>
      rw [outcome_writeFile_of_no_target husable htarget]
      exact iff_of_false nofun nofun
    | ok l =>
      rw [outcome_writeFile_of_target husable htarget]
      constructor
      · intro h
        rcases hfault : s.disk.fault? l octets with _ | fault | ⟨count, fault⟩ <;>
          rw [hfault] at h <;> cases h
        exact ⟨l, rfl, hfault, rfl⟩
      · rintro ⟨_, ⟨⟩, hfault, rfl⟩
        rw [hfault]

/-- The file that is held at the place of a path is read there. -/
theorem readFile_holding {l : Location} (h : s.tree.target s.workingDir p = .ok l)
    (octets : Utf8.Octets) :
    (s.holding l octets).tree.readFile s.workingDir p = .ok octets := by
  have hwrite : s.tree.writeFile s.workingDir p octets = .ok (s.tree.put l (.file octets)) := by
    rw [FileTree.writeFile, h]
    rfl
  exact FileTree.readFile_eq_ok_iff.2 (FileTree.growsTo_writeFile hwrite).2

theorem writeFile_eq_ok {s s' : Session} {octets : Utf8.Octets}
    (h : (writeFile p octets).outcome s = (.ok (), s')) :
    s'.tree.readFile s'.workingDir p = .ok octets := by
  obtain ⟨-, l, htarget, -, rfl⟩ := writeFile_eq_ok_iff.1 h
  exact readFile_holding htarget octets

/-! ## Texts -/

/-- The octets that writing a text puts into a file: none for a text that cannot be encoded. -/
def textOctets (t : Text) : Utf8.Octets := (Utf8.encode t).toOption.getD []

theorem textOctets_of_encode {t : Text} {octets : Utf8.Octets} (h : Utf8.encode t = .ok octets) :
    textOctets t = octets := by
  rw [textOctets, h]
  rfl

/-- A text that can be encoded is written as its octets. -/
theorem writeText_of_encode {t : Text} {octets : Utf8.Octets} (h : Utf8.encode t = .ok octets) :
    writeText p t = writeFile p octets := by
  unfold writeText
  rw [h]

/-- Whether a text could be encoded comes out after its octets were written. -/
theorem writeText_eq_bind (p : Path) (t : Text) :
    writeText p t = (writeFile p (textOctets t) >>= fun _ =>
      match Utf8.encode t with
      | .ok _ => pure ()
      | .error fault => throw (.unencodable t fault)) := by
  unfold writeText textOctets
  cases Utf8.encode t with
  | ok octets => exact (bind_pure _).symm
  | error fault => rfl

/-- A text that was written could be encoded, and the disk took its octets. -/
theorem writeText_eq_ok {s s' : Session} {t : Text}
    (h : (writeText p t).outcome s = (.ok (), s')) :
    ∃ octets, Utf8.encode t = .ok octets ∧ (writeFile p octets).outcome s = (.ok (), s') := by
  rw [writeText_eq_bind] at h
  obtain ⟨_, mid, hwrite, hverdict⟩ := outcome_bind_eq_ok.1 h
  split at hverdict
  · rename_i octets hencode
    obtain ⟨-, rfl⟩ := outcome_pure_eq_ok.1 hverdict
    rw [textOctets_of_encode hencode] at hwrite
    exact ⟨octets, hencode, hwrite⟩
  · cases hverdict

end Action

end DashboardKit
