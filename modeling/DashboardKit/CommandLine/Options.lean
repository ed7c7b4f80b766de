import DashboardKit.Component.Catalog
import DashboardKit.Path.Basic
import DashboardKit.Text.Quoted

/-!
# The command line: options

The words of a command line are first told apart, each by itself: options, arguments and the words
that look like an option but are none.  A long option may be shortened as long as one option alone
begins that way, and its argument may stand behind an equals sign; the argument of a short option
may follow its letter directly.  Then the words are read in order, until the first fault or a
request for help.
-/

set_option autoImplicit false

namespace DashboardKit.CommandLine

/-- The options of the command line. -/
inductive Flag where
  | help
  | kind
  | config
  | projectRoot
  | templatesDir
  | noInstall
  | strict
  | listKinds
  deriving DecidableEq, Repr

namespace Flag

/-- All options, in the order in which they are shown. -/
def all : List Flag :=
  [help, kind, config, projectRoot, templatesDir, noInstall, strict, listKinds]

/-- The spellings of an option. -/
def spellings : Flag → List Text
  | help => ["-h", "--help"]
  | kind => ["--type", "-t"]
  | config => ["--config", "-c"]
  | projectRoot => ["--project-root", "-p"]
  | templatesDir => ["--templates-dir"]
  | noInstall => ["--no-install"]
  | strict => ["--strict"]
  | listKinds => ["--list-types"]

/-- Whether an option takes an argument. -/
def takesArgument : Flag → Bool
  | kind => true
  | config => true
  | projectRoot => true
  | templatesDir => true
  | _ => false

/-- An option as messages name it. -/
def title (f : Flag) : Text := Text.join "/" f.spellings

/-- Every spelling with its option. -/
def spelled : List (Text × Flag) := all.flatMap fun f => f.spellings.map fun s => (s, f)

/-- The option with a given spelling. -/
def ofSpelling? (t : Text) : Option Flag := spelled.lookup t

/-- Every option is among all. -/
theorem mem_all (f : Flag) : f ∈ all := by cases f <;> decide

/-- No spelling stands for two options. -/
theorem ofSpelling?_of_mem {f : Flag} {s : Text} (h : s ∈ f.spellings) :
    ofSpelling? s = some f := by
  have hall : ∀ f ∈ all, ∀ s ∈ f.spellings, ofSpelling? s = some f := by decide +kernel
  exact hall f (mem_all f) s h

end Flag

/-- What is wrong with a command line. -/
inductive UsageFault where
  /-- several options begin like this word -/
  | ambiguous (word : Text) (spellings : List Text)
  | argumentMissing (flag : Flag)
  | invalidChoice (argument : Text)
  /-- an option that takes no argument is given one -/
  | argumentIgnored (flag : Flag) (argument : Text)
  | unrecognized (words : List Text)
  deriving DecidableEq, Repr

/-- The name of the program. -/
def programName : Text := "microlab"

/-- The status of the program after a fault on its command line. -/
def usageStatus : Nat := 2

/-- The wording of a fault. -/
def UsageFault.message (fault : UsageFault) : Text :=
  programName ++ (": error: " : Text) ++
    match fault with
    | .ambiguous word spellings =>
      ("ambiguous option: " : Text) ++ word ++ (" could match " : Text)
        ++ Text.join ", " spellings
    | .argumentMissing flag =>
      ("argument " : Text) ++ flag.title ++ (": expected one argument" : Text)
    | .invalidChoice argument =>
      ("argument " : Text) ++ Flag.kind.title ++ (": invalid choice: " : Text)
        ++ Text.quoted argument ++ (" (choose from " : Text)
        ++ Text.join ", " (ComponentKind.all.map fun k => Text.quoted (Text.ofString k.name))
        ++ (")" : Text)
    | .argumentIgnored flag argument =>
      ("argument " : Text) ++ flag.title ++ (": ignored explicit argument " : Text)
        ++ Text.quoted argument
    | .unrecognized words => ("unrecognized arguments: " : Text) ++ Text.join " " words

/-! ## Words -/

/-- A text that stands directly behind an option. -/
inductive Attached where
  /-- behind the equals sign of a long option -/
  | marked (t : Text)
  /-- behind the letter of a short option; an equals sign between them is not part of it -/
  | direct (t : Text)
  deriving DecidableEq, Repr

/-- The text itself. -/
def Attached.text : Attached → Text
  | .marked t => t
  | .direct t => t

/-- A word of the command line. -/
inductive Word where
  | argument (t : Text)
  /-- two dashes: no word after it is an option -/
  | separator
  | option (flag : Flag) (attached : Option Attached)
  /-- a word that looks like an option but is none -/
  | unknown (t : Text)
  deriving DecidableEq, Repr

/-- The dash that options begin with. -/
def dash : CodePoint := .scalar '-'

/-- The sign between an option and its argument. -/
def equalsSign : CodePoint := .scalar '='

/-- The two dashes after which no word is an option. -/
def separatorText : Text := "--"

/-- A text before its first equals sign and, if there is one, what follows it. -/
def splitMark (t : Text) : Text × Option Text :=
  match t.dropWhile (· ≠ equalsSign) with
  | [] => (t, none)
  | _ :: rest => (t.takeWhile (· ≠ equalsSign), some rest)

/-- Whether a text consists of decimal digits. -/
def allDigits (t : Text) : Bool := t.all fun p => p.digit?.isSome

/-- Whether a text behind a dash is a number with or without a fraction.  A line break at its end
does not count. -/
def isNumber (t : Text) : Bool :=
  let t := if t.getLast? = some (.scalar '\n') then t.dropLast else t
  match t.dropWhile (fun p => p.digit?.isSome) with
  | [] => !t.isEmpty
  | p :: fraction => p = .scalar '.' && !fraction.isEmpty && allDigits fraction

/-- A word that is no spelling of an option: how it can be read as one. -/
def readOption (word : Text) : List (Text × Flag × Option Attached) :=
  if Text.startsWith word separatorText then
    let (start, argument) := splitMark word
    (Flag.spelled.filter fun e => Text.startsWith e.1 start).map fun e =>
      (e.1, e.2, argument.map .marked)
  else
    (Flag.spelled.filter fun e => e.1 = word.take 2).map fun e =>
      (e.1, e.2, some (.direct (word.drop 2)))

/-- A word that begins with a dash and is no spelling of an option. -/
def readDashed (word : Text) : Except UsageFault Word :=
  match readOption word with
  | [(_, flag, attached)] => .ok (.option flag attached)
  | [] =>
    if isNumber (word.drop 1) || word.contains (.scalar ' ') then .ok (.argument word)
    else .ok (.unknown word)
  | several => .error (.ambiguous word (several.map (·.1)))

/-- Reads a word by itself. -/
def readWord (word : Text) : Except UsageFault Word :=
  if word.head? ≠ some dash || word = [dash] then .ok (.argument word)
  else
    match Flag.ofSpelling? word with
    | some flag => .ok (.option flag none)
    | none =>
      match splitMark word with
      | (spelling, some argument) =>
        match Flag.ofSpelling? spelling with
        | some flag =>
          .ok (.option flag
            (some (if Text.startsWith spelling separatorText then .marked argument
                   else .direct argument)))
        | none => readDashed word
      | (_, none) => readDashed word

/-- Reads words one by one, up to the separator. -/
def readWords : List Text → Except UsageFault (List Word)
  | [] => .ok []
  | word :: rest =>
    if word = separatorText then .ok (.separator :: rest.map .argument)
    else
      match readWord word with
      | .error e => .error e
      | .ok w => (readWords rest).map (w :: ·)

/-! ## Options -/

/-- What is asked for with options. -/
structure Options where
  kind : Option ComponentKind
  config : Option Path
  projectRoot : Option Path
  templatesDir : Option Path
  noInstall : Bool
  strict : Bool
  listKinds : Bool
  deriving DecidableEq, Repr

/-- What is asked for without options. -/
def Options.standard : Options := ⟨none, none, none, none, false, false, false⟩

/-- What a command line asks for. -/
inductive Request where
  | help
  | run (o : Options)
  deriving DecidableEq, Repr

/-- Takes an option with its argument. -/
def Options.withArgument (o : Options) (argument : Text) : Flag → Except UsageFault Options
  | .kind =>
    match ComponentKind.all.find? fun k => Text.ofString k.name = argument with
    | some kind => .ok { o with kind := some kind }
    | none => .error (.invalidChoice argument)
  | .config => .ok { o with config := some (Path.ofText argument) }
  | .projectRoot => .ok { o with projectRoot := some (Path.ofText argument) }
  | .templatesDir => .ok { o with templatesDir := some (Path.ofText argument) }
  | _ => .ok o

/-- Takes an option without an argument. -/
def Options.withFlag (o : Options) : Flag → Options
  | .noInstall => { o with noInstall := true }
  | .strict => { o with strict := true }
  | .listKinds => { o with listKinds := true }
  | _ => o

/-- What is wrong with letters that follow the letter of the request for help, if anything is.
They are options themselves, of which the first that takes an argument takes what follows;
`argumentFollows` tells whether the next word is an argument. -/
def lettersFault (argumentFollows : Bool) (letters : Text) : Option UsageFault :=
  match letters with
  | [] => none
  | letter :: rest =>
    match Flag.ofSpelling? [dash, letter] with
    | none => some (.argumentIgnored .help letters)
    | some flag =>
      if !flag.takesArgument then lettersFault argumentFollows rest
      else if rest.isEmpty && !argumentFollows then some (.argumentMissing flag)
      else none

/-- What is wrong with a text behind an option that takes no argument, if anything is.  Only letters
behind the letter of the request for help can do without a fault. -/
def attachedFault (flag : Flag) (argumentFollows : Bool) : Attached → Option UsageFault
  | .marked t => some (.argumentIgnored flag t)
  | .direct t =>
    if t.isEmpty then some (.argumentIgnored flag t) else lettersFault argumentFollows t

/-- Whether the first of some words is an argument. -/
def beginsWithArgument : List Word → Bool
  | .argument _ :: _ => true
  | _ => false

/-- Reads the words of a command line in order.  `extra` are those so far that belong to nothing. -/
def settle (o : Options) (extra : List Text) : List Word → Except UsageFault Request
  | [] => if extra.isEmpty then .ok (.run o) else .error (.unrecognized extra)
  | .argument t :: rest => settle o (extra ++ [t]) rest
  | .separator :: rest => settle o (extra ++ [separatorText]) rest
  | .unknown t :: rest => settle o (extra ++ [t]) rest
  | .option flag (some attached) :: rest =>
    if flag.takesArgument then
      (o.withArgument attached.text flag).bind fun o => settle o extra rest
    else
      match attachedFault flag (beginsWithArgument rest) attached with
      | some fault => .error fault
      | none => .ok .help
  | .option flag none :: .argument t :: rest =>
    if flag.takesArgument then (o.withArgument t flag).bind fun o => settle o extra rest
    else if flag = .help then .ok .help
    else settle (o.withFlag flag) (extra ++ [t]) rest
  | .option flag none :: rest =>
    if flag.takesArgument then .error (.argumentMissing flag)
    else if flag = .help then .ok .help
    else settle (o.withFlag flag) extra rest

/-- What a command line asks for. -/
def read (words : List Text) : Except UsageFault Request :=
  (readWords words).bind (settle .standard [])

end DashboardKit.CommandLine
