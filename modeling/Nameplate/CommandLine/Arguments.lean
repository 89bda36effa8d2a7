import Nameplate.CommandLine.Grammar

/-!
The arguments of the program.

Options that concern every command come before the command; the words behind
it are the command's own.  A call for help and a misuse both end the reading of
arguments, with the exit status that belongs to them.
-/

namespace Nameplate.CommandLine

structure ResolveArguments where
  snapshot : String
  /-- The path of the configuration, if its option is given; none in the place of
  the path if it was struck out. -/
  config : Option (Option String)
  /-- An entry for each id option, none for one whose id was struck out. -/
  ids : List (Option Int)
  json : Bool
  verbose : Bool
deriving DecidableEq, Repr

inductive Command where
  | resolve (arguments : ResolveArguments)
  | check (config : String)
  | tags
deriving DecidableEq, Repr

structure Arguments where
  /-- The level, if its option is given; empty if it was struck out. -/
  logLevel : Option String
  noColor : Bool
  command : Option Command
deriving DecidableEq, Repr

/-- The paths of the files that a run reads. -/
def Arguments.paths (arguments : Arguments) : List String :=
  match arguments.command with
  | some (.resolve resolve) => resolve.config.join.toList ++ [resolve.snapshot]
  | some (.check config) => [config]
  | some .tags => []
  | none => []

inductive Stop where
  | help
  | misuse
deriving DecidableEq, Repr

def Stop.status : Stop → Nat
  | .help => 0
  | .misuse => 2

inductive Flag where
  | help
  | logLevel
  | noColor
  | config
  | id
  | json
  | verbose
deriving DecidableEq, Repr

def programGrammar (strikes : Bool) : Grammar Flag where
  letters := [('h', .help)]
  names := [("--help", .help, false), ("--log-level", .logLevel, true),
    ("--no-color", .noColor, false)]
  strikes := strikes

def resolveGrammar (strikes : Bool) : Grammar Flag where
  letters := [('h', .help), ('v', .verbose)]
  names := [("--help", .help, false), ("--config", .config, true), ("--id", .id, true),
    ("--json", .json, false), ("--verbose", .verbose, false)]
  strikes := strikes

def plainGrammar (strikes : Bool) : Grammar Flag where
  letters := [('h', .help)]
  names := [("--help", .help, false)]
  strikes := strikes

/-- What was read of a command's words: its operand, its options, and whether a
word was left over. -/
structure CommandWords where
  operand : Option String
  config : Option (Option String)
  ids : List (Option Int)
  json : Bool
  verbose : Bool
  surplus : Bool

def CommandWords.none : CommandWords :=
  ⟨Option.none, Option.none, [], false, false, false⟩

/-- The words read after one more event.  The value of an id option, if it has
one, has to be an integer. -/
def CommandWords.take (words : CommandWords) : Event Flag → Except Stop CommandWords
  | .option .help _ => .error .help
  | .option .config value => .ok { words with config := some value }
  | .option .id Option.none => .ok { words with ids := words.ids ++ [Option.none] }
  | .option .id (some text) =>
      match Text.integer? text with
      | some id => .ok { words with ids := words.ids ++ [some id] }
      | Option.none => .error .misuse
  | .option .json _ => .ok { words with json := true }
  | .option .verbose _ => .ok { words with verbose := true }
  | .option _ _ => .ok words
  | .operand text => .ok { words with operand := some text }
  | .command _ _ => .ok words
  | .surplus => .ok { words with surplus := true }

def readCommand (grammar : Grammar Flag) (operands : Nat) (words : List String) :
    Except Stop CommandWords :=
  match grammar.classify words with
  | none => .error .misuse
  | some classified => do
      let reading := grammar.read false operands false classified
      let result ← reading.events.foldlM CommandWords.take CommandWords.none
      if reading.complete then return result else throw .misuse

/-- The command of a name with the words that follow it, and whether a word was
left over. -/
def commandOf (strikes : Bool) (name : String) (words : List String) :
    Except Stop (Command × Bool) :=
  if name = "resolve" then do
    let result ← readCommand (resolveGrammar strikes) 1 words
    match result.operand with
    | none => throw .misuse
    | some snapshot =>
        return (.resolve ⟨snapshot, result.config, result.ids, result.json, result.verbose⟩,
          result.surplus)
  else if name = "check" then do
    let result ← readCommand (plainGrammar strikes) 1 words
    match result.operand with
    | none => throw .misuse
    | some config => return (.check config, result.surplus)
  else if name = "tags" then do
    let result ← readCommand (plainGrammar strikes) 0 words
    return (.tags, result.surplus)
  else throw .misuse

structure ProgramWords where
  arguments : Arguments
  surplus : Bool

def ProgramWords.take (strikes : Bool) (words : ProgramWords) :
    Event Flag → Except Stop ProgramWords
  | .option .help _ => .error .help
  | .option .logLevel value =>
      .ok { words with arguments := { words.arguments with logLevel := some (value.getD "") } }
  | .option .noColor _ =>
      .ok { words with arguments := { words.arguments with noColor := true } }
  | .option _ _ => .ok words
  | .operand _ => .ok words
  | .command name rest => do
      let (command, surplus) ← commandOf strikes name rest
      return {
        arguments := { words.arguments with command := some command }
        surplus := words.surplus || surplus }
  | .surplus => .ok { words with surplus := true }

/-- Reads the arguments of a run.  A word that nothing takes is a misuse, which
is noticed when everything else was read.  Whether values that are exactly `--` are
struck out is up to the caller. -/
def Arguments.ofWords (strikes : Bool) (words : List String) : Except Stop Arguments :=
  let grammar := programGrammar strikes
  match grammar.classify words with
  | none => .error .misuse
  | some classified => do
      let reading := grammar.read true 1 false classified
      let result ← reading.events.foldlM (ProgramWords.take strikes) ⟨⟨none, false, none⟩, false⟩
      if reading.complete && !result.surplus then return result.arguments else throw .misuse

end Nameplate.CommandLine
