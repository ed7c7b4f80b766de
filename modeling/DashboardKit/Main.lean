import DashboardKit.CommandLine.Reach
import DashboardKit.Template.Packaged

/-!
# The program

Runs the command line on real files.  The places that a run may look at are read into the tree of a
session; when the run has ended, what it changed there is written back.  A run is repeated with one
more answer whenever it asks a question.  The program starts no other programs: a package manager
counts as one that could not be started, and the guide tells how to call it.
-/

set_option autoImplicit false

namespace DashboardKit.Program

/-- A text for the terminal. -/
def shown (t : Text) : String := String.ofList (Text.charsLossy t)

/-- A location as the file system spells it. -/
def spelled (l : Location) : String := shown l.path.text

/-- Where the packaged templates appear in a session. -/
def packagedTemplates : Path := Path.ofText "/usr/share/microlab/templates"

/-- Reads a place of the file system into a tree. -/
def fetch (t : FileTree) (l : Location) : IO FileTree := do
  if (t.find? l).isSome then return t
  try
    let octets ← IO.FS.readBinFile (spelled l)
    return t.withFile l octets.toList
  catch e =>
    match e with
    | .noFileOrDirectory _ _ _ => return t
    | .inappropriateType _ _ _ => return t.withDirs l
    | _ => return t

/-- The variables that a run looks at. -/
def readVariables : IO (List (Text × Text)) := do
  let names := ["HOME", "MICROLAB_SKIP_INSTALL"] ++ Settings.fieldVariables.map fun e => shown e.1
  names.filterMapM fun name => do
    return (← IO.getEnv name).map fun value => (Text.ofString name, Text.ofString value)

/-- Shows an event on the terminal. -/
def showEvent : Event → IO Unit
  | .line t => IO.println (shown t)
  | .table title columns rows => do
    IO.println (shown title)
    (columns :: rows).forM fun row => IO.println ("  " ++ shown (Text.join "  " row))
  | .rule title => IO.println ("──" ++ shown title ++ "──")
  | .panel title t => do
    IO.println (shown title)
    IO.println (shown t)
  | .question t => do
    IO.print (shown t)
    (← IO.getStdout).flush
  | .traceback => return

/-- Writes back what a run changed. -/
def writeBack (old new : FileTree) : IO Unit := do
  let changed := old.changes new []
  changed.forM fun (l, e) => do
    if e == .dir then IO.FS.createDirAll (spelled l)
  changed.forM fun (l, e) => do
    if let .file octets := e then IO.FS.writeBinFile (spelled l) ⟨octets.toArray⟩

/-- Runs until there are no more questions.  The first `seen` events have been shown. -/
partial def attend (o : CommandLine.Options) (s : Session) (seen : Nat) : IO UInt32 := do
  let tree ← (CommandLine.reach o s).foldlM fetch s.tree
  let s := { s with tree }
  let (status, new) := (CommandLine.run o).outcome s
  let finish : IO UInt32 := do
    (new.events.drop seen).forM showEvent
    writeBack s.tree new.tree
    return match status with
      | .ok n => n.toUInt32
      | .error _ => 1
  match CommandLine.untilUnanswered s.answers.length new.events with
  | none => finish
  | some events =>
    (events.drop seen).forM showEvent
    let line ← (← IO.getStdin).getLine
    if line.isEmpty then
      (new.events.drop events.length).forM showEvent
      return 1
    attend o { s with answers := s.answers ++ [some (Text.ofString line)] } events.length

/-- Does what a command line asks for. -/
def start (words : List Text) : IO UInt32 := do
  match CommandLine.read words with
  | .error fault =>
    IO.eprint (shown (CommandLine.brokenLines (CommandLine.usageLines ++ [fault.message])))
    return CommandLine.usageStatus.toUInt32
  | .ok .help =>
    IO.print (shown CommandLine.helpText)
    return 0
  | .ok (.run o) =>
    let workingDir := (Path.ofText (Text.ofString (← IO.currentDir).toString)).segments
    let tree := (Template.Packaged.placed .empty packagedTemplates.segments).withDirs workingDir
    let s := Session.start tree workingDir packagedTemplates (← readVariables)
    attend o { s with install := .notStarted 38 "Function not implemented" } 0

end DashboardKit.Program

/-- The command line of the program. -/
def main (args : List String) : IO UInt32 :=
  DashboardKit.Program.start (args.map DashboardKit.Text.ofString)
