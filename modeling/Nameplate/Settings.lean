import Nameplate.Names.Section

/-!
Settings: the name rules and the reporting options of a configuration.

The reporting options are kept as they were written.  What a level means is
only asked when it is put to use, so a configuration with a strange level can
be read, shown and written back.
-/

namespace Nameplate

structure Reporting where
  level : Document
  format : Document
deriving DecidableEq, Repr

def Reporting.default : Reporting where
  level := .text "WARNING"
  format := .text "%(asctime)s %(levelname)s %(name)s: %(message)s"

structure Settings where
  names : Names
  reporting : Reporting
deriving Repr

/-- Settings are equal when their rules and their options are. -/
instance : BEq Settings where
  beq left right := left.names == right.names && left.reporting == right.reporting

namespace Settings

inductive Error where
  | notMapping (typeName : String)
  | unknownOption (key : String)
  /-- The reporting options have a key that stands for the options themselves. -/
  | reservedOption (key : String)
  | optionsNotMapping (typeName : String)
  | names (error : Names.Error)
deriving DecidableEq, Repr

def Error.message : Error → String
  | .notMapping typeName => "Config must be a mapping, got " ++ typeName
  | .unknownOption key =>
      "Invalid logging section: LoggingConfig.__init__() got an unexpected keyword argument '" ++
        key ++ "'"
  | .reservedOption key =>
      "Invalid logging section: LoggingConfig.__init__() got multiple values for argument '" ++
        key ++ "'"
  | .optionsNotMapping typeName =>
      "Invalid logging section: audio_names.config.LoggingConfig() argument after ** " ++
        "must be a mapping, not " ++ typeName
  | .names error => error.message

def default : Settings :=
  ⟨Names.default, Reporting.default⟩

def namesLocation : Location := ⟨"names", []⟩

def optionKeys : List String := ["level", "format"]

def reservedKey : String := "self"

/-- The reporting options of their section.  Options that are left out keep
their defaults, and no other keys are allowed. -/
def reportingOfDocument (document : Document) : Except Error Reporting :=
  match document.orEmptyMapping with
  | .mapping members =>
      match members.find? fun member => !optionKeys.contains member.1 with
      | some member =>
          if member.1 = reservedKey then .error (.reservedOption member.1)
          else .error (.unknownOption member.1)
      | none => .ok {
          level := (Document.member? members "level").getD Reporting.default.level
          format := (Document.member? members "format").getD Reporting.default.format }
  | other => .error (.optionsNotMapping other.typeName)

/-- The settings of a configuration document.  The reporting options are
examined before the name rules. -/
def ofDocument : Document → Logged Error Settings
  | .mapping members => do
      let reporting ← Logged.ofExcept
        (reportingOfDocument (Document.memberOrNull members "logging"))
      let names ← (Names.ofDocument (Document.memberOrNull members "names")
        namesLocation).mapError .names
      return ⟨names, reporting⟩
  | other => Logged.fail (.notMapping other.typeName)

def toDocument (settings : Settings) : Document :=
  .mapping [
    ("names", settings.names.toDocument),
    ("logging", .mapping [
      ("level", settings.reporting.level),
      ("format", settings.reporting.format)])]

end Settings

end Nameplate
