import DashboardKit.CommandLine.Run
import DashboardKit.Template.Store

/-!
# The command line: reach

The places of the file system that a run may look at.  A program that runs on real files brings
these into the tree of a session before it starts.
-/

set_option autoImplicit false

namespace DashboardKit.CommandLine

/-- The location of a path that may begin with a home directory. -/
def homeLocation (s : Session) (p : Path) : Location :=
  match (Action.expandHome p).outcome s with
  | (.ok p, _) => FileTree.resolve s.workingDir p
  | (.error _, _) => FileTree.resolve s.workingDir p

/-- The locations of the config files that options or answers may name. -/
def configLocations (o : Options) (s : Session) : List Location :=
  (o.config.toList ++ s.answers.filterMap fun answer =>
    answer.map fun t => Path.ofText (Text.trim CodePoint.isBlank t)).map (homeLocation s)

/-- The locations of the templates that a run with settings may read. -/
def templateLocations (s : Session) (settings : Settings) : List Location :=
  let store := TemplateStore.ofSettings settings
  ComponentKind.all.flatMap fun kind =>
    kind.artifacts.filterMap fun key =>
      (store.source? (kind.templateId key)).map (FileTree.resolve s.workingDir)

/-- The locations at and above the directories that artifacts are written to. -/
def directoryLocations (s : Session) (settings : Settings) : List Location :=
  [settings.componentPath, settings.apiPath].flatMap fun p =>
    let l := FileTree.resolve s.workingDir p
    (List.range l.length).map fun n => l.take (n + 1)

/-- The locations that a run may look at. -/
def reach (o : Options) (s : Session) : List Location :=
  configLocations o s ++
    match (settings o).outcome s with
    | (.error _, _) => []
    | (.ok settings, _) =>
      FileTree.resolve s.workingDir settings.manifestPath
        :: templateLocations s settings ++ directoryLocations s settings

/-- The events up to the first question that no answer was given to, if there is such a question. -/
def untilUnanswered : (given : Nat) → List Event → Option (List Event)
  | _, [] => none
  | 0, .question t :: _ => some [.question t]
  | given + 1, .question t :: rest => (untilUnanswered given rest).map (.question t :: ·)
  | given, e :: rest => (untilUnanswered given rest).map (e :: ·)

end DashboardKit.CommandLine
