import Nameplate.Files.Format

/-!
A reader for plain YAML.

Of YAML only JSON text and blank text are understood, with the meaning that they have
there.  Any other text is taken for malformed, so this reader serves where files hold
nothing else.  The program runs with it.
-/

namespace Nameplate

namespace PlainYaml

open Document (Dialect ReadError)

/-- What a line break is read as. -/
def lineBreak? (character : Char) : Option Char :=
  if ['\n', '\r', '\u0085'].contains character then some '\n'
  else if ['\u2028', '\u2029'].contains character then some character
  else none

/-- YAML as far as it is JSON.  Every kind of line break is blank there but no tab
is, lines of texts are folded, and surrogate pairs are not joined.  There are no words
for infinite and undefined numbers.  Integers are examined when the whole text was
read. -/
def dialect (levels : Option Nat) : Dialect where
  isBlank character := character = ' ' || (lineBreak? character).isSome
  words := [("null", .null), ("true", .bool true), ("false", .bool false)]
  lineBreak? := lineBreak?
  keyWidth := some 1024
  exponentsAreStrict := true
  levels := levels
  integerDigits := none
  joinsPairs := false

def isCharacter (character : Char) : Bool :=
  let code := character.toNat
  code = 0x9 || code = 0xa || code = 0xd || (0x20 ≤ code && code ≤ 0x7e) || code = 0x85 ||
    (0xa0 ≤ code && code ≤ 0xfffd) || 0x10000 ≤ code

/-- The spaces that are no blanks of the format but texts of it. -/
def isWideSpace (character : Char) : Bool :=
  let code := character.toNat
  [0xa0, 0x1680, 0x202f, 0x205f, 0x3000].contains code || (0x2000 ≤ code && code ≤ 0x200a)

/-- The text without the mark that may stand at its start. -/
def withoutMark (content : String) : String :=
  match content.toList with
  | '\ufeff' :: rest => String.ofList rest
  | _ => content

mutual

/-- The integers of a value that have too many digits, each by how deep it lies
and how many digits it has. -/
def longIntegers (depth : Nat) : Document → List (Nat × Nat)
  | .integer value =>
      if value.natAbs < Nat.pow 10 Text.maximumDigits then []
      else [(depth, (Nat.toDigits 10 value.natAbs).length)]
  | .list items => longIntegersOfItems (depth + 1) items
  | .mapping members => longIntegersOfMembers (depth + 1) members
  | _ => []

def longIntegersOfItems (depth : Nat) : List Document → List (Nat × Nat)
  | [] => []
  | item :: rest => longIntegers depth item ++ longIntegersOfItems depth rest

def longIntegersOfMembers (depth : Nat) : List (String × Document) → List (Nat × Nat)
  | [] => []
  | (_, value) :: rest => longIntegers depth value ++ longIntegersOfMembers depth rest

end

/-- The value of the first entry among those with the least depth. -/
def shallowest? : List (Nat × Nat) → Option Nat
  | [] => none
  | entry :: rest =>
      some (rest.foldl (fun best next => if next.1 < best.1 then next else best) entry).2

/-- The document that a text holds.  Of several integers with too many digits the
least deep is named. -/
def document (levels : Option Nat) (content : String) : Except ReadError Document := do
  let text := withoutMark content
  let characters := text.toList
  let isBlank := (dialect levels).isBlank
  if !characters.all isCharacter then throw .malformed
  else if characters.all isBlank then return .null
  else if characters.all fun character => isBlank character || isWideSpace character
  then return .text text
  else
    let document ← Document.read (dialect levels) text
    match shallowest? (longIntegers 0 document) with
    | some digits => throw (.longInteger digits)
    | none => return document

def faultOf : ReadError → ReadFault
  | .malformed => .malformed "malformed YAML"
  | .longInteger digits => .unfit (Text.longIntegerMessage digits)
  | .deepContainer _ => .broken "maximum recursion depth exceeded"

def read (levels : Option Nat) (content : String) : Except ReadFault Document :=
  (document levels content).mapError faultOf

end PlainYaml

/-- Readers for JSON and plain YAML, with limits to how many lists and mappings may
lie in one another. -/
def Readers.plain (jsonLevels yamlLevels : Option Nat) : Readers where
  levels _ := jsonLevels
  notJson _ := "malformed JSON"
  yaml _ := PlainYaml.read yamlLevels

end Nameplate
