import Nameplate.CommandLine.Arguments
import Nameplate.Files.Loading
import Nameplate.Files.Plain
import Nameplate.Report
import Nameplate.Text.Uppercase

/-!
Runs of the program.

A run is a function of its words, the files it may read and the host that it runs on;
its outcome is an exit status with what was written to the two outputs.  Everything
that a command reads is read before it prints.  It prints text by text, so a text that
the standard output cannot encode is told behind the texts that were written before it.

Reports at or above the threshold go to the error output, which takes every text.  The
trace that belongs to the report of a failed command is left out.
-/

namespace Nameplate.CommandLine

/-- The names of thresholds, with the weight from which on reports are shown. -/
def thresholds : List (String × Nat) := [
  ("CRITICAL", 50), ("FATAL", 50), ("ERROR", 40), ("WARN", 30), ("WARNING", 30),
  ("INFO", 20), ("DEBUG", 10), ("NOTSET", 0)]

/-- The weight of a threshold that is named in any case. -/
def threshold? (name : String) : Option Nat :=
  thresholds.lookup (Text.upper name)

/-- What a run depends on besides its words and files. -/
structure Host where
  /-- Whether the reader of arguments strikes out a value that is exactly `--`. -/
  strikes : Bool
  readers : Readers
  output : Output

/-- The host of the program: its readers refuse values about as deep as a thousand open
calls allow. -/
def Host.usual (isTerminal : Bool) : Host where
  strikes := true
  readers := .plain (some 985) (some 485)
  output := .utf8 isTerminal

inductive Failure where
  | noPath
  | settings (error : Settings.FileError)
  | unknownLevel (name : String)
  /-- The configured level is a value of a type that has no upper case. -/
  | levelType (typeName : String)
  | snapshot (error : Snapshot.FileError)
  | noId
  | description (error : DescriptionError)
  /-- The standard output cannot encode a text; `words` say so. -/
  | output (words : String)
deriving DecidableEq, Repr

def Failure.message : Failure → String
  | .noPath => "expected str, bytes or os.PathLike object, not list"
  | .settings error => error.message
  | .unknownLevel name => "Unknown level: " ++ Text.quoted name
  | .levelType typeName => "'" ++ typeName ++ "' object has no attribute 'upper'"
  | .snapshot error => error.message
  | .noId => "unhashable type: 'list'"
  | .description error => error.message
  | .output words => words

/-- Whether a command does not expect a failure: an option whose value was struck out, a
level of a strange type, or a file whose reading broke off. -/
def Failure.isUnexpected : Failure → Bool
  | .noPath => true
  | .noId => true
  | .levelType _ => true
  | .settings (.unreadable _ (.broken _)) => true
  | .snapshot (.unreadable _ _ (.broken _)) => true
  | _ => false

inductive Outcome where
  /-- The arguments were not understood, or help was called for. -/
  | usage (status : Nat)
  | finished (status : Nat) (stdout stderr : String)
  | escaped (failure : Failure) (stdout stderr : String)
deriving DecidableEq, Repr

/-- The reports at or above a threshold, a line for each. -/
def visible (threshold : Nat) (journal : List Entry) : String :=
  unlines ((journal.filter fun entry => threshold ≤ entry.level.weight).map Entry.text)

def errorLine (palette : Option Palette) (message : String) : String :=
  paint palette .red ("Error: " ++ message) ++ "\n"

/-- The outcome of a command that failed after some texts were written and some reports
were made.  Only a failure that it expects is told. -/
def failed (palette : Option Palette) (threshold : Nat) (written reports : String)
    (failure : Failure) : Outcome :=
  if failure.isUnexpected then .escaped failure written reports
  else
    .finished 1 written
      (reports ++ visible threshold [⟨.debug, .command, "Command failed"⟩] ++
        errorLine palette failure.message)

/-- The outcome of a command that prints some texts after some reports. -/
def printing (output : Output) (palette : Option Palette) (threshold : Nat) (reports : String)
    (texts : List String) : Outcome :=
  match output.print texts with
  | (written, none) => .finished 0 written reports
  | (written, some refused) =>
      failed palette threshold written reports (.output (output.complaint refused))

/-- The settings of a run: those of the configuration file, if its option is
given. -/
def loadSettings (readers : Readers) (files : Files) :
    Option (Option String) → Logged Failure Settings
  | none => pure Settings.default
  | some none => Logged.fail .noPath
  | some (some path) => (Settings.ofFile readers files path).mapError .settings

def levelThreshold (level : Document) : Except Failure Nat :=
  match level with
  | .text name =>
      match threshold? name with
      | some threshold => .ok threshold
      | none => .error (.unknownLevel (Text.upper name))
  | other => .error (.levelType other.typeName)

/-- The threshold after a configuration file was read.  Its level counts if a
file was named and the words of the run name no level. -/
def thresholdAfter (arguments : Arguments) (config : Option (Option String)) (threshold : Nat)
    (settings : Settings) : Except Failure Nat :=
  if config.isSome && arguments.logLevel.isNone then levelThreshold settings.reporting.level
  else .ok threshold

/-- A command that reads its settings, works with them, and prints the texts that this
comes to. -/
def runWith (arguments : Arguments) (host : Host) (files : Files) (palette : Option Palette)
    (threshold : Nat) (config : Option (Option String))
    (body : Settings → Logged Failure (List String)) : Outcome :=
  let loading := loadSettings host.readers files config
  let opening := visible threshold loading.journal
  match loading.outcome with
  | .error failure => failed palette threshold "" opening failure
  | .ok settings =>
      match thresholdAfter arguments config threshold settings with
      | .error failure => failed palette threshold "" opening failure
      | .ok applied =>
          let work := body settings
          let reports := opening ++ visible applied work.journal
          match work.outcome with
          | .error failure => failed palette applied "" reports failure
          | .ok texts => printing host.output palette applied reports texts

def describeGiven (catalog : Catalog) (names : Names) : Option Int →
    Logged Failure Description
  | none => Logged.fail .noId
  | some id => (catalog.describe names id).mapError .description

/-- Describes the objects that id options ask for in their order, or every device
and node if there is no such option. -/
def describeSelection (catalog : Catalog) (names : Names) (ids : List (Option Int)) :
    Logged Failure (List Description) :=
  if ids.isEmpty then (catalog.describeAll names).mapError .description
  else Logged.forEach (describeGiven catalog names) ids

/-- The lines that are printed of some descriptions; as one document they are printed at
once. -/
def renderDescriptions (arguments : ResolveArguments) (palette : Option Palette)
    (descriptions : List Description) : List String :=
  if arguments.json then
    [Document.indented (.list (descriptions.map Description.toDocument))]
  else Report.table palette arguments.verbose descriptions

def resolveBody (arguments : ResolveArguments) (readers : Readers) (files : Files)
    (palette : Option Palette) (settings : Settings) : Logged Failure (List String) := do
  let catalog ← (Snapshot.ofFile readers files arguments.snapshot).mapError .snapshot
  let descriptions ← describeSelection catalog settings.names arguments.ids
  return endedLines (renderDescriptions arguments palette descriptions)

def checkBody (config : String) (palette : Option Palette) (settings : Settings) :
    Logged Failure (List String) :=
  return paint palette .green "OK" :: " " :: config :: "\n" ::
    endedLines (Report.names palette settings.names)

def helpText : String := unlines [
  "usage: audio-names [-h] [--log-level LOG_LEVEL] [--no-color]",
  "                   \x7bresolve,check,tags\x7d ...",
  "",
  "Check name templates and resolve audio object names",
  "",
  "positional arguments:",
  "  \x7bresolve,check,tags\x7d  Command to run",
  "    resolve             Resolve names for a snapshot",
  "    check               Validate a names configuration",
  "    tags                List placeholder tags",
  "",
  "options:",
  "  -h, --help            show this help message and exit",
  "  --log-level LOG_LEVEL",
  "                        Log level (overrides the config file)",
  "  --no-color            Disable colored output"]

/-- The threshold that the words of a run name.  No level and an empty one both
stand for warnings. -/
def startThreshold? (logLevel : Option String) : Option Nat :=
  match logLevel with
  | none => threshold? "WARNING"
  | some name => threshold? (if name.isEmpty then "WARNING" else name)

/-- The palette of a run: that of the terminal which it writes to, unless colour is off. -/
def Arguments.palette (arguments : Arguments) (output : Output) : Option Palette :=
  if !arguments.noColor && output.isTerminal then some output.palette else none

def runArguments (arguments : Arguments) (host : Host) (files : Files) : Outcome :=
  let palette := arguments.palette host.output
  match startThreshold? arguments.logLevel with
  | none =>
      .finished 1 ""
        (errorLine palette ("Unknown log level: " ++ arguments.logLevel.getD ""))
  | some threshold =>
      match arguments.command with
      -- The help text is ASCII, so it is always printed.
      | none => .finished 1 helpText ""
      | some (.resolve resolve) =>
          runWith arguments host files palette threshold resolve.config
            (resolveBody resolve host.readers files palette)
      | some (.check config) =>
          runWith arguments host files palette threshold (some (some config))
            (checkBody config palette)
      | some .tags =>
          printing host.output palette threshold "" (endedLines (Report.tags palette))

def run (host : Host) (words : List String) (files : Files) : Outcome :=
  match Arguments.ofWords host.strikes words with
  | .error stop => .usage stop.status
  | .ok arguments => runArguments arguments host files

end Nameplate.CommandLine
