import Nameplate.Document.Reader
import Nameplate.Text.Integer

/-!
The formats of files.

A file holds JSON or YAML.  JSON is read here.  A reader of YAML comes from outside: it
may take any part of YAML for a document, and may refuse a text in its own words.
Values of YAML that no document can hold, such as dates, are left out of account.  How
deep values may lie in one another also depends on what runs the program, and on what
it reads the file for.
-/

namespace Nameplate

inductive FileFormat where
  | json
  | yaml
deriving DecidableEq, Repr

/-- What a file is read for. -/
inductive FileUse where
  | settings
  | snapshot
deriving DecidableEq, Repr

/-- Why a text gives no document, in the words of its reader. -/
inductive ReadFault where
  /-- The text does not have the form that its format asks for. -/
  | malformed (words : String)
  /-- The text has this form, but a value that is written in it cannot be made. -/
  | unfit (words : String)
  /-- Reading broke off with an error that readers are not known for. -/
  | broken (words : String)
deriving DecidableEq, Repr

def ReadFault.words : ReadFault → String
  | .malformed words => words
  | .unfit words => words
  | .broken words => words

/-- What is told of a fault in JSON; `words` are for a text that is none. -/
def ReadFault.ofJson (words : String) : Document.ReadError → ReadFault
  | .malformed => .malformed words
  | .longInteger digits => .unfit (Text.longIntegerMessage digits)
  | .deepContainer container =>
      .broken ("maximum recursion depth exceeded while decoding a JSON " ++ container.jsonName ++
        " from a unicode string")

/-- What reading depends on besides the text. -/
structure Readers where
  /-- How many lists and mappings of JSON may lie in one another. -/
  levels : FileUse → Option Nat
  /-- What is said of a text that is not JSON. -/
  notJson : String → String
  yaml : FileUse → String → Except ReadFault Document

namespace Readers

def jsonDialect (readers : Readers) (use : FileUse) : Document.Dialect :=
  { Document.Dialect.json with
    levels := readers.levels use
    integerDigits := some Text.maximumDigits }

def read (readers : Readers) (use : FileUse) (format : FileFormat) (content : String) :
    Except ReadFault Document :=
  match format with
  | .json =>
      (Document.read (readers.jsonDialect use) content).mapError
        (.ofJson (readers.notJson content))
  | .yaml => readers.yaml use content

end Readers

end Nameplate
