import Nameplate.Files
import Nameplate.Files.Format
import Nameplate.Settings
import Nameplate.Snapshot

/-!
Configuration and snapshot files.

The ending of a file's name tells its format.  What goes wrong on the way to a
text, in reading it and in what it says are different errors.
-/

namespace Nameplate

namespace Settings

inductive FileError where
  | file (error : Nameplate.FileError)
  | unreadable (format : FileFormat) (fault : ReadFault)
  | settings (error : Settings.Error)
deriving DecidableEq, Repr

def FileError.message : FileError → String
  | .file error => error.message
  | .unreadable _ fault => fault.words
  | .settings error => error.message

def formatOf (path : String) : FileFormat :=
  if path.endsWith ".json" then .json else .yaml

/-- The settings of a configuration file.  In YAML a value that counts as nothing is an
empty configuration. -/
def ofFile (readers : Readers) (files : Files) (path : String) : Logged FileError Settings := do
  let content ← Logged.ofExcept ((files.content path).mapError .file)
  let format := formatOf path
  let document ← Logged.ofExcept
    ((readers.read .settings format content).mapError (.unreadable format))
  let root := if format = .yaml then document.orEmptyMapping else document
  (ofDocument root).mapError .settings

end Settings

namespace Snapshot

inductive FileError where
  | missing (path : String)
  | file (error : Nameplate.FileError)
  | unreadable (path : String) (format : FileFormat) (fault : ReadFault)
  | snapshot (error : Snapshot.Error)
deriving DecidableEq, Repr

def FileError.message : FileError → String
  | .missing path => "Snapshot file not found: " ++ path
  | .file error => error.message
  | .unreadable path _ (.malformed words) => "Failed to parse snapshot " ++ path ++ ": " ++ words
  | .unreadable _ _ fault => fault.words
  | .snapshot error => error.message

def formatOf (path : String) : FileFormat :=
  if [".yaml", ".yml"].contains (Path.suffix path) then .yaml else .json

/-- What it means for a snapshot that a path leads to no text.  A directory and
a path that is too long are told apart; anything else is missing. -/
def fileErrorOf (path : String) : Nameplate.FileError → FileError
  | .isDirectory path => .file (.isDirectory path)
  | .tooLong path => .file (.tooLong path)
  | _ => .missing path

/-- The objects of a snapshot file.  A value that counts as nothing is an empty
snapshot. -/
def ofFile (readers : Readers) (files : Files) (path : String) : Logged FileError Catalog := do
  let path := Path.normalized path
  let content ← Logged.ofExcept ((files.content path).mapError (fileErrorOf path))
  let format := formatOf path
  let document ← Logged.ofExcept
    ((readers.read .snapshot format content).mapError (.unreadable path format))
  Logged.note .info .snapshot ("Loading snapshot file: " ++ path)
  (ofDocument document.orEmptyMapping).mapError .snapshot

end Snapshot

end Nameplate
