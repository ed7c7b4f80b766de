import DashboardKit.Path.Basic
import DashboardKit.Text.FileName

/-!
# File trees

A file tree says what every location holds: a directory, a file with its octets, or nothing.  A
location is a list of names from the root, as the file system spells them; paths are followed to
one segment by segment, each of them standing in a directory, and two dots lead back up.

A disk may also fail where neither path nor tree is at fault: it refuses a directory or a file, or
breaks off a write that it had begun.

`find?_put` is what all reasoning about changes rests on: putting an entry changes its own location
and no other.
-/

set_option autoImplicit false

namespace DashboardKit

/-- What a location holds. -/
inductive Entry where
  | dir
  | file (octets : Utf8.Octets)
  deriving DecidableEq, Repr

/-- The names from the root to a place. -/
abbrev Location : Type := List Text

/-- The path from the root to a location. -/
def Location.path (l : Location) : Path := ⟨.root, l⟩

/-- A file tree, as the entries of its locations.  The root is always a directory. -/
structure FileTree where
  entries : List (Location × Entry)
  deriving Repr

/-- Why a file operation fails. -/
inductive FileCause where
  | missing
  | notDirectory
  | isDirectory
  | alreadyThere
  | nameTooLong
  /-- a failure reported from outside, by number and wording -/
  | other (code : Int) (wording : Text)
  deriving DecidableEq, Repr

/-- A failed file operation and the path it was asked for, if it was asked for one. -/
structure FileFault where
  cause : FileCause
  path : Option Text
  deriving DecidableEq, Repr

/-- A cause as the fault of an operation on a path. -/
def FileFault.of (p : Path) (c : FileCause) : FileFault := ⟨c, some p.text⟩

/-- What becomes of octets that a disk does not take whole. -/
inductive DiskFault where
  /-- the file is not opened, and is what it was -/
  | refused (fault : FileFault)
  /-- the file is opened, and so many octets get into it -/
  | brokenOff (count : Nat) (fault : FileFault)
  deriving DecidableEq, Repr

/-- What a disk takes, beyond what paths and entries decide: permissions, space, damage. -/
structure Disk where
  /-- what becomes of octets that are written to the file at a location and not taken whole -/
  fault? : Location → Utf8.Octets → Option DiskFault
  /-- number and wording of why no directory can be made at a location -/
  noDir? : Location → Option (Int × Text)

/-- A disk that takes everything. -/
def Disk.sound : Disk := ⟨fun _ _ => none, fun _ => none⟩

namespace FileTree

/-- The tree that holds nothing but the root. -/
def empty : FileTree := ⟨[]⟩

/-- What a location holds. -/
def find? (t : FileTree) (l : Location) : Option Entry :=
  if l = [] then some .dir else (t.entries.find? fun e => e.1 = l).map (·.2)

/-- The tree with an entry at a location. -/
def put (t : FileTree) (l : Location) (e : Entry) : FileTree :=
  ⟨(l, e) :: t.entries.filter fun e => e.1 ≠ l⟩

/-- The tree without a location and all that lies below it. -/
def remove (t : FileTree) (l : Location) : FileTree :=
  ⟨t.entries.filter fun e => (Path.segmentsAfter? (l.map FileName.spelled) e.1).isNone⟩

/-- Putting an entry changes its own location and no other. -/
theorem find?_put (t : FileTree) (l m : Location) (e : Entry) (hl : l ≠ []) :
    (t.put l e).find? m = if m = l then some e else t.find? m := by
  unfold find? put
  by_cases hm : m = []
  · have : m ≠ l := fun h => hl (h ▸ hm)
    simp [hm, Ne.symm hl]
  · by_cases h : m = l
    · subst h; simp [hm]
    · have h' : l ≠ m := fun e => h e.symm
      simp only [hm, if_false, h, List.find?_cons, h', decide_false]
      congr 1
      rw [List.find?_filter]
      congr 1
      funext a
      by_cases ha : a.1 = m
      · simp [ha, h]
      · simp [ha]

/-! ## Following paths -/

/-- The number of octets that a text takes in a file name. -/
def octetCount (t : Text) : Nat := (FileName.octets t).length

/-- The longest file name, in octets. -/
def nameLimit : Nat := 255

/-- The longest path, in octets. -/
def pathLimit : Nat := 4095

/-- Takes one step from a location, which has to be a directory. -/
def step (t : FileTree) (l : Location) (segment : Text) : Except FileCause Location :=
  match t.find? l with
  | none => .error .missing
  | some (.file _) => .error .notDirectory
  | some .dir =>
    if segment = Path.dotDot then .ok l.dropLast
    else if nameLimit < octetCount segment then .error .nameTooLong
    else .ok (l ++ [FileName.spelled segment])

/-- Follows segments from a location. -/
def follow (t : FileTree) (l : Location) : List Text → Except FileCause Location
  | [] => .ok l
  | s :: rest =>
    match t.step l s with
    | .error e => .error e
    | .ok l => follow t l rest

/-- The location that a path leads to; whether anything is there is left open. -/
def locate (t : FileTree) (cwd : Location) (p : Path) : Except FileCause Location :=
  if pathLimit < octetCount p.text then .error .nameTooLong
  else t.follow (if p.isAbsolute then [] else cwd) p.segments

/-- The location that a path names when every segment but two dots goes down and two dots always go
up, whatever the tree holds. -/
def resolve (cwd : Location) (p : Path) : Location :=
  p.segments.foldl (fun l s => if s = Path.dotDot then l.dropLast else l ++ [s])
    (if p.isAbsolute then [] else cwd)

/-! ## Operations -/

/-- What is at a path, if anything is. -/
def at? (t : FileTree) (cwd : Location) (p : Path) : Except FileFault (Option Entry) :=
  match t.locate cwd p with
  | .ok l => .ok (t.find? l)
  | .error .missing => .ok none
  | .error .notDirectory => .ok none
  | .error c => .error (FileFault.of p c)

/-- Whether a path leads to a file. -/
def isFile (t : FileTree) (cwd : Location) (p : Path) : Except FileFault Bool :=
  (t.at? cwd p).map fun e => match e with | some (.file _) => true | _ => false

/-- Whether a path leads to a directory. -/
def isDir (t : FileTree) (cwd : Location) (p : Path) : Except FileFault Bool :=
  (t.at? cwd p).map fun e => e == some .dir

/-- The octets of the file at a path. -/
def readFile (t : FileTree) (cwd : Location) (p : Path) : Except FileFault Utf8.Octets :=
  match t.locate cwd p with
  | .error c => .error (FileFault.of p c)
  | .ok l =>
    match t.find? l with
    | none => .error (FileFault.of p .missing)
    | some .dir => .error (FileFault.of p .isDirectory)
    | some (.file octets) => .ok octets

/-- Where a file could be written at a path: a location in a directory that holds no directory. -/
def target (t : FileTree) (cwd : Location) (p : Path) : Except FileFault Location :=
  match t.locate cwd p with
  | .error c => .error (FileFault.of p c)
  | .ok l =>
    match t.find? l with
    | some .dir => .error (FileFault.of p .isDirectory)
    | _ => .ok l

/-- The tree with octets written to the file at a path. -/
def writeFile (t : FileTree) (cwd : Location) (p : Path) (octets : Utf8.Octets) :
    Except FileFault FileTree :=
  (t.target cwd p).map fun l => t.put l (.file octets)

/-- The tree with a directory made at a path, in a directory that is there. -/
def makeDir (disk : Disk) (t : FileTree) (cwd : Location) (p : Path) : Except FileCause FileTree :=
  match t.locate cwd p with
  | .error c => .error c
  | .ok l =>
    match t.find? l, disk.noDir? l with
    | some _, _ => .error .alreadyThere
    | none, some (code, wording) => .error (.other code wording)
    | none, none => .ok (t.put l .dir)

/-- Settles a directory that could not be made: it is no failure if it is there already. -/
def settleDir (t : FileTree) (cwd : Location) (p : Path) (c : FileCause) : Except FileFault Unit :=
  match t.isDir cwd p with
  | .error e => .error e
  | .ok true => .ok ()
  | .ok false => .error (FileFault.of p c)

/-- Makes the directory that is reached by the first `count` segments, and the ones above it where
they are missing.  The tree is given back also when this fails half-way. -/
def makeDirsUpTo (disk : Disk) (cwd : Location) (p : Path) :
    (count : Nat) → FileTree → FileTree × Except FileFault Unit
  | count, t =>
    let q : Path := ⟨p.anchor, p.segments.take count⟩
    match t.makeDir disk cwd q with
    | .ok t => (t, .ok ())
    | .error .missing =>
      match count with
      | 0 => (t, .error (FileFault.of q .missing))
      | count + 1 =>
        match makeDirsUpTo disk cwd p count t with
        | (t, .error e) => (t, .error e)
        | (t, .ok ()) =>
          match t.makeDir disk cwd q with
          | .ok t => (t, .ok ())
          | .error .missing => (t, .error (FileFault.of q .missing))
          | .error c => (t, t.settleDir cwd q c)
    | .error c => (t, t.settleDir cwd q c)

/-- Makes the directory at a path and those above it where they are missing. -/
def makeDirs (disk : Disk) (t : FileTree) (cwd : Location) (p : Path) :
    FileTree × Except FileFault Unit :=
  makeDirsUpTo disk cwd p p.segments.length t

/-! ## Building trees -/

/-- The tree with directories one below the other from a location, wherever there is nothing yet. -/
def withDirsFrom (t : FileTree) (l : Location) : List Text → FileTree
  | [] => t
  | s :: rest =>
    let l := l ++ [FileName.spelled s]
    withDirsFrom (if (t.find? l).isSome then t else t.put l .dir) l rest

/-- The tree with directories at a location and above it, wherever there is nothing yet. -/
def withDirs (t : FileTree) (l : Location) : FileTree := t.withDirsFrom [] l

/-- The tree with a file at a location, in directories. -/
def withFile (t : FileTree) (l : Location) (octets : Utf8.Octets) : FileTree :=
  (t.withDirs l.dropLast).put (l.map FileName.spelled) (.file octets)

/-! ## Comparing trees -/

/-- The locations of a tree below a given one, with what they hold. -/
def below (t : FileTree) (l : Location) : List (List Text × Entry) :=
  t.entries.filterMap fun e =>
    match Path.segmentsAfter? l e.1 with
    | some (s :: rest) => some (s :: rest, e.2)
    | _ => none

/-- What the second tree holds below a location that the first one holds otherwise or not at all. -/
def changes (old new : FileTree) (l : Location) : List (List Text × Entry) :=
  (new.below l).filter fun e => old.find? (l ++ e.1) ≠ some e.2

end FileTree

/-! ## Messages -/

/-- The number of a cause. -/
def FileCause.code : FileCause → Int
  | .missing => 2
  | .notDirectory => 20
  | .isDirectory => 21
  | .alreadyThere => 17
  | .nameTooLong => 36
  | .other code _ => code

/-- The wording of a cause. -/
def FileCause.wording : FileCause → Text
  | .missing => "No such file or directory"
  | .notDirectory => "Not a directory"
  | .isDirectory => "Is a directory"
  | .alreadyThere => "File exists"
  | .nameTooLong => "File name too long"
  | .other _ wording => wording

end DashboardKit
