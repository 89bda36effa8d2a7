import Nameplate.Path
import Nameplate.Text.Quoted

/-!
Files and directories.

Texts and directories stand under paths.  A path leads to a text if its walk can
be made: every part is looked up in a directory that is there, and no name and
no path is too long.  The first obstacle on the way is the error.
-/

namespace Nameplate

inductive FileEntry where
  | text (content : String)
  | directory
deriving DecidableEq, Repr

abbrev Files := List (String × FileEntry)

inductive FileError where
  | missing (path : String)
  | isDirectory (path : String)
  /-- The path goes on behind the name of a text. -/
  | notDirectory (path : String)
  | tooLong (path : String)
  | nullCharacter
deriving DecidableEq, Repr

def FileError.message : FileError → String
  | .missing path => "[Errno 2] No such file or directory: " ++ Text.quoted path
  | .isDirectory path => "[Errno 21] Is a directory: " ++ Text.quoted path
  | .notDirectory path => "[Errno 20] Not a directory: " ++ Text.quoted path
  | .tooLong path => "[Errno 36] File name too long: " ++ Text.quoted path
  | .nullCharacter => "embedded null byte"

namespace Files

/-- The most bytes that a name may have. -/
def maximumName : Nat := 255

/-- The most bytes that a path may have. -/
def maximumPath : Nat := 4095

/-- What stands at a place.  The origins of walks are directories, and so is
every place with an entry under it. -/
def entry? (files : Files) (place : Path.Place) : Option FileEntry :=
  if place.names.isEmpty then some .directory
  else
    match files.find? fun entry => Path.place entry.1 = place with
    | some entry => some entry.2
    | none =>
        if files.any fun entry => (Path.place entry.1).isUnder place then some .directory
        else none

/-- Walks the parts of a path from a place on. -/
def walk (files : Files) (path : String) (place : Path.Place) :
    List (List Char) → Except FileError Path.Place
  | [] => .ok place
  | part :: rest =>
      match files.entry? place with
      | none => .error (.missing path)
      | some (.text _) => .error (.notDirectory path)
      | some .directory =>
          if maximumName < (String.ofList part).utf8ByteSize then .error (.tooLong path)
          else walk files path (place.next part) rest

def find (files : Files) (path : String) : Except FileError FileEntry :=
  if '\x00' ∈ path.toList then .error .nullCharacter
  else if path.isEmpty then .error (.missing path)
  else if maximumPath < path.utf8ByteSize then .error (.tooLong path)
  else do
    let place ← files.walk path (Path.start path) (Path.parts path)
    match files.entry? place with
    | none => throw (.missing path)
    | some entry => return entry

def content (files : Files) (path : String) : Except FileError String := do
  match ← files.find path with
  | .directory => throw (.isDirectory path)
  | .text content => return content

end Files

end Nameplate
