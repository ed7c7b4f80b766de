import DashboardKit.Failure
import DashboardKit.Settings
import DashboardKit.Yaml.Reader

/-!
# Sessions

A session is what a run sees and leaves behind: the files and what the disk takes, the variables of
the environment, the users of the system, the answers that are typed, what was printed, and the
calls of the package manager.  An `Action` runs in a session; when it fails, what it did before
stays done.

What a session leaves out: links and other entries that are neither files nor directories; reading
that fails though path and tree allow it; a terminal that cannot show a text; and a command or a
working directory that cannot be handed to the system when the package manager is called.
-/

set_option autoImplicit false

namespace DashboardKit

/-- What is shown to the user. -/
inductive Event where
  | line (t : Text)
  | table (title : Text) (columns : List Text) (rows : List (List Text))
  | rule (title : Text)
  | panel (title text : Text)
  /-- a question that an answer is read for -/
  | question (prompt : Text)
  /-- the place of a report for developers -/
  | traceback
  deriving DecidableEq, Repr

/-- What comes of calling the package manager. -/
inductive InstallOutcome where
  | exited (status : Int)
  | notStarted (code : Int) (wording : Text)
  deriving DecidableEq, Repr

/-- A call of the package manager. -/
structure InstallCall where
  command : List Text
  workingDir : Path
  deriving DecidableEq, Repr

/-- The users of a system. -/
structure Users where
  /-- the home directories by user, as the users' names are spelled -/
  homes : List (Text × Text)
  /-- the home directory of the user who runs, if the system knows this user -/
  own : Option Text
  deriving DecidableEq, Repr

/-- The state of a run. -/
structure Session where
  tree : FileTree
  disk : Disk
  workingDir : Location
  packagedTemplates : Path
  environment : List (Text × Text)
  users : Users
  /-- the answers that will be typed; nothing stands for breaking off -/
  answers : List (Option Text)
  /-- what will come of calling the package manager -/
  install : InstallOutcome
  /-- a failure that saving a manifest will meet before anything is touched, if any -/
  writeFault : Option FileFault
  events : List Event
  installCalls : List InstallCall

/-- Something that runs in a session and may fail. -/
abbrev Action (α : Type) : Type := ExceptT Failure (StateM Session) α

namespace Session

/-- A session in which nothing was done yet, no answers will be typed, the disk takes everything,
the package manager does its work, and the superuser is the only user. -/
def start (tree : FileTree) (workingDir : Location) (packagedTemplates : Path)
    (environment : List (Text × Text)) : Session where
  tree := tree
  disk := .sound
  workingDir := workingDir
  packagedTemplates := packagedTemplates
  environment := environment
  users := ⟨[("root", "/root")], some "/root"⟩
  answers := []
  install := .exited 0
  writeFault := none
  events := []
  installCalls := []

/-- The value of a variable of the environment. -/
def envVar (s : Session) (name : Text) : Option Text := s.environment.lookup name

/-- What settings are made from where a field is not given. -/
def surroundings (s : Session) : Surroundings := ⟨s.workingDir.path, s.packagedTemplates⟩

/-- What becomes of octets that are written to the file at a path and not taken whole, if a file
could be written there. -/
def diskFault? (s : Session) (p : Path) (octets : Utf8.Octets) : Option DiskFault :=
  match s.tree.target s.workingDir p with
  | .ok l => s.disk.fault? l octets
  | .error _ => none

end Session

namespace Action

/-- Runs an action: what came of it, and the session afterwards. -/
def outcome {α : Type} (a : Action α) (s : Session) : Except Failure α × Session :=
  StateT.run (ExceptT.run a) s

/-- An outcome that does not touch the session. -/
def ofExcept {ε α : Type} (failure : ε → Failure) : Except ε α → Action α
  | .ok a => pure a
  | .error e => throw (failure e)

/-! ## Printing -/

/-- Shows something. -/
def emit (e : Event) : Action Unit := modify fun s => { s with events := s.events ++ [e] }

/-- Prints a line as it is. -/
def print (t : Text) : Action Unit := emit (.line t)

/-- What markup shows. -/
def shownMarkup (t : Text) : Action Text := ofExcept Failure.markup (Markup.shown t)

/-- Prints a line of markup. -/
def printMarkup (t : Text) : Action Unit := do
  print (← shownMarkup t)

/-- Prints a text in a style. -/
def printStyled (style : Text) (t : Text) : Action Unit :=
  printMarkup
    (("[" : Text) ++ style ++ ("]" : Text) ++ Markup.escape t
      ++ ("[/" : Text) ++ style ++ ("]" : Text))

/-- Prints an error. -/
def printError (t : Text) : Action Unit := printStyled "bold red" t

/-- Prints a warning. -/
def printWarning (t : Text) : Action Unit := printStyled "bold yellow" t

/-- Prints a heading between empty lines. -/
def printHeader (title : Text) : Action Unit := do
  print []
  emit (.rule ((" " : Text) ++ title ++ (" " : Text)))
  print []

/-- Prints a table whose cells are markup. -/
def printTable (title : Text) (columns : List Text) (rows : List (List Text)) : Action Unit := do
  emit (.table title columns (← rows.mapM fun row => row.mapM shownMarkup))

/-- Prints labels, which may hold markup, and what they stand for, with an empty line after them. -/
def printSummary (title : Text) (rows : List (Text × Text)) : Action Unit := do
  printTable title ["Item", "Value"] (rows.map fun (label, value) => [label, Markup.escape value])
  print []

/-! ## Questions -/

/-- Asks a question and reads an answer, without the blanks around it. -/
def ask (prompt : Text) : Action Text := do
  emit (.question (prompt ++ (": " : Text)))
  let s ← get
  match s.answers with
  | [] => throw .noAnswer
  | answer :: rest =>
    set { s with answers := rest }
    match answer with
    | none => throw .interrupted
    | some t => return Text.trim CodePoint.isBlank t

/-! ## Files -/

/-- Refuses a name that cannot be handed to the system. -/
def checkName (name : Text) : Action Unit := do
  match FileName.firstFault 0 name with
  | some fault => throw (.unencodable name fault)
  | none => if name.contains (.ofNat 0) then throw .nulInPath

/-- Refuses a path that cannot be handed to the file system. -/
def checkPath (p : Path) : Action Unit := checkName p.text

/-- Whether a path can be handed to the file system. -/
def isUsable (p : Path) : Bool :=
  (FileName.firstFault 0 p.text).isNone && !p.text.contains (.ofNat 0)

/-- Whether a path leads to a file. -/
def isFile (p : Path) : Action Bool := do
  if isUsable p then
    let s ← get
    ofExcept .file (s.tree.isFile s.workingDir p)
  else return false

/-- Whether a path leads to a directory. -/
def isDir (p : Path) : Action Bool := do
  if isUsable p then
    let s ← get
    ofExcept .file (s.tree.isDir s.workingDir p)
  else return false

/-- The octets of a file. -/
def readFile (p : Path) : Action Utf8.Octets := do
  checkPath p
  let s ← get
  ofExcept .file (s.tree.readFile s.workingDir p)

/-- The text of octets. -/
def decode (octets : Utf8.Octets) : Action (List Char) :=
  ofExcept (fun fault => .undecodable ⟨fault, octets⟩) (Utf8.read octets)

/-- The text of a file. -/
def readText (p : Path) : Action (List Char) := do
  decode (← readFile p)

/-- Puts octets into a file. -/
def putFile (p : Path) (octets : Utf8.Octets) : Action Unit := do
  let s ← get
  let tree ← ofExcept .file (s.tree.writeFile s.workingDir p octets)
  set { s with tree }

/-- Writes octets to a file.  A disk that breaks off leaves what it took. -/
def writeFile (p : Path) (octets : Utf8.Octets) : Action Unit := do
  checkPath p
  match (← get).diskFault? p octets with
  | none => putFile p octets
  | some (.refused fault) => throw (.file fault)
  | some (.brokenOff count fault) =>
    putFile p (octets.take count)
    throw (.file fault)

/-- Writes a text to a file.  A text that cannot be encoded leaves the file empty. -/
def writeText (p : Path) (t : Text) : Action Unit := do
  match Utf8.encode t with
  | .ok octets => writeFile p octets
  | .error fault =>
    writeFile p []
    throw (.unencodable t fault)

/-- Makes a directory and those above it. -/
def makeDirs (p : Path) : Action Unit := do
  checkPath p
  let s ← get
  let (tree, result) := s.tree.makeDirs s.disk s.workingDir p
  set { s with tree }
  ofExcept .file result

/-- The segments in front of two dots, when a path is followed by name alone: they take the last
segment away, unless there is nothing but dots to go back from. -/
def backFrom (anchor : Anchor) (front : List Text) : List Text :=
  if anchor = .here ∧ (front = [] ∨ front.getLast? = some Path.dotDot) then front ++ [Path.dotDot]
  else front.dropLast

/-- Refuses the first place on the way along segments that cannot be handed to the file system. -/
def checkSteps (anchor : Anchor) : (front : List Text) → List Text → Action Unit
  | _, [] => pure ()
  | front, s :: rest =>
    if s = Path.dotDot then checkSteps anchor (backFrom anchor front) rest
    else do
      checkPath ⟨anchor, front ++ [s]⟩
      checkSteps anchor (front ++ [s]) rest

/-- The place of a path from the root. -/
def resolve (p : Path) : Action Path := do
  checkSteps (if p.isAbsolute then .root else .here) [] p.segments
  return (FileTree.resolve (← get).workingDir p).path

/-- Makes a directory and those above it, and gives its place from the root. -/
def ensureDir (p : Path) : Action Path := do
  makeDirs p
  resolve p

/-- What a path begins with for a home directory, if it is known and says more than a tilde. -/
def homeText : Option Text → Action Text
  | none => throw .noHome
  | some home =>
    let home := Text.trimEnd (· = Path.slash) home
    if home.head? = some (.scalar '~') then throw .noHome
    else return if home.isEmpty then "/" else home

/-- The home directory that the first segment of a path names by a tilde and perhaps a user. -/
def homeOf (segment : Text) : Action Text := do
  let s ← get
  if segment = ("~" : Text) then homeText ((s.envVar "HOME").or s.users.own)
  else
    checkName segment.tail
    homeText (s.users.homes.lookup (FileName.spelled segment.tail))

/-- A path with a tilde at its start replaced by the home directory it names. -/
def expandHome (p : Path) : Action Path := do
  match p.anchor, p.segments with
  | .here, first :: rest =>
    if first.head? = some (.scalar '~') then
      let dir := Path.ofText (← homeOf first)
      return { dir with segments := dir.segments ++ rest }
    else return p
  | _, _ => return p

/-! ## Documents -/

/-- The document in a JSON file. -/
def loadJson (p : Path) : Action Value := do
  ofExcept .ofJson (Json.read (← readText p))

/-- The document in a YAML file. -/
def loadYaml (p : Path) : Action Value := do
  ofExcept .yaml (Yaml.read (← readText p))

/-- A value as the text of a JSON file, with a line break at its end. -/
def fileText (v : Value) : Except Json.WriteFault Text :=
  (Json.write .file v).map (· ++ [.scalar '\n'])

/-- Writes a value to a JSON file and makes the directories above it. -/
def saveJson (v : Value) (p : Path) : Action Unit := do
  makeDirs p.parent
  writeText p (← ofExcept .ofWrite (fileText v))

end Action

end DashboardKit
