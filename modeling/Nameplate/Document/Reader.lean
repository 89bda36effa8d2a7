import Nameplate.Document
import Nameplate.Text.Surrogates

/-!
Reading documents from text.

A text holds one value, with blanks around it, in the manner of JSON.  Dialects
differ in their blanks and words, in whether lines are folded, and in what they
refuse: long integers, deeply nested values.  Reading goes from left to right and
ends with the first fault.  A key that is repeated in a mapping keeps its first
place and its last value.

A text may hold half of a surrogate pair, if it is written by its code.  The codes of
both halves write one character in JSON, but not in every dialect.

The recursive readers are given one unit of fuel more than the text has
characters, which is enough because no value spends more units than it has
characters.
-/

namespace Nameplate

namespace Document

structure Dialect where
  isBlank : Char → Bool
  words : List (String × Document)
  /-- What a line break is read as; none if the character breaks no lines. -/
  lineBreak? : Char → Option Char
  /-- How many characters a key may take up to its colon, on one line. -/
  keyWidth : Option Nat
  /-- Whether an exponent counts only with a sign and behind a fraction, so that
  a number with another one is a text. -/
  exponentsAreStrict : Bool
  /-- How many lists and mappings may lie in one another. -/
  levels : Option Nat
  /-- How many digits an integer may have. -/
  integerDigits : Option Nat
  /-- Whether two codes that are a surrogate pair write one character. -/
  joinsPairs : Bool

def Dialect.json : Dialect where
  isBlank character :=
    character = ' ' || character = '\t' || character = '\n' || character = '\r'
  words := [
    ("null", .null), ("true", .bool true), ("false", .bool false),
    ("NaN", .decimal .undefined), ("Infinity", .decimal (.infinite false)),
    ("-Infinity", .decimal (.infinite true))]
  lineBreak? _ := none
  keyWidth := none
  exponentsAreStrict := false
  levels := none
  integerDigits := none
  joinsPairs := true

inductive Container where
  | list
  | mapping
deriving DecidableEq, Repr

/-- What JSON calls its containers. -/
def Container.jsonName : Container → String
  | .list => "array"
  | .mapping => "object"

inductive ReadError where
  | malformed
  | longInteger (digits : Nat)
  | deepContainer (container : Container)
deriving DecidableEq, Repr

def hexDigit? (character : Char) : Option Nat :=
  if '0' ≤ character ∧ character ≤ '9' then some (character.toNat - '0'.toNat)
  else if 'a' ≤ character ∧ character ≤ 'f' then some (character.toNat - 'a'.toNat + 10)
  else if 'A' ≤ character ∧ character ≤ 'F' then some (character.toNat - 'A'.toNat + 10)
  else none

def hexNumber? (digits : List Char) : Option Nat :=
  digits.foldlM (fun value digit => (hexDigit? digit).map (16 * value + ·)) 0

def escaped? : Char → Option Char
  | '"' => some '"'
  | '\\' => some '\\'
  | '/' => some '/'
  | 'b' => some '\x08'
  | 'f' => some '\x0c'
  | 'n' => some '\n'
  | 'r' => some '\r'
  | 't' => some '\t'
  | _ => none

/-- A character of a text, and how many characters write it. -/
structure WrittenChar where
  char : Char
  width : Nat
deriving DecidableEq, Repr

/-- Reads a text behind its opening quotation mark; `seen` holds its characters
so far, the last one first. -/
def readText (joinsPairs : Bool) (seen : List WrittenChar) :
    List Char → Option (List WrittenChar × List Char)
  | [] => none
  | '"' :: rest => some (seen.reverse, rest)
  | '\\' :: 'u' :: a :: b :: c :: d :: rest =>
      match hexNumber? [a, b, c, d] with
      | none => none
      | some high =>
          let unjoined : WrittenChar := ⟨Text.charOfCode high, 6⟩
          if joinsPairs && Text.isHighSurrogate high then
            match rest with
            | '\\' :: 'u' :: e :: f :: g :: h :: more =>
                match hexNumber? [e, f, g, h] with
                | none => none
                | some low =>
                    if Text.isLowSurrogate low then
                      let code := 0x10000 + (high - 0xd800) * 0x400 + (low - 0xdc00)
                      readText joinsPairs (⟨Char.ofNat code, 12⟩ :: seen) more
                    else
                      readText joinsPairs (unjoined :: seen)
                        ('\\' :: 'u' :: e :: f :: g :: h :: more)
            | other => readText joinsPairs (unjoined :: seen) other
          else readText joinsPairs (unjoined :: seen) rest
  | '\\' :: letter :: rest =>
      match escaped? letter with
      | none => none
      | some character => readText joinsPairs (⟨character, 2⟩ :: seen) rest
  | character :: rest =>
      if character = '\\' ∨ character.toNat < 0x20 then none
      else readText joinsPairs (⟨character, 1⟩ :: seen) rest

def breaksLine (dialect : Dialect) (written : WrittenChar) : Bool :=
  written.width = 1 && (dialect.lineBreak? written.char).isSome

/-- What a run of spaces and line breaks in a text stands for.  Spaces around
line breaks do not count; a single simple break is a space, and of several breaks
a simple one in front does not count. -/
def foldRun (dialect : Dialect) (run : List Char) : List Char :=
  match run.filterMap dialect.lineBreak? with
  | [] => run
  | ['\n'] => [' ']
  | '\n' :: others => others
  | breaks => breaks

/-- The characters of a text with its lines folded, the last one first; `seen`
are those so far and `run` the spaces and line breaks behind them. -/
def foldLines (dialect : Dialect) (seen run : List Char) : List WrittenChar → List Char
  | [] => (foldRun dialect run.reverse).reverse ++ seen
  | written :: rest =>
      if written.width = 1 && written.char = ' ' || breaksLine dialect written then
        foldLines dialect seen (written.char :: run) rest
      else
        foldLines dialect (written.char :: ((foldRun dialect run.reverse).reverse ++ seen)) []
          rest

def textOf (dialect : Dialect) (characters : List WrittenChar) : String :=
  String.ofList (foldLines dialect [] [] characters).reverse

/-- Whether a key, with the blanks behind it, may stand before a colon. -/
def keyFits (dialect : Dialect) (key : List WrittenChar) (blanks : List Char) : Bool :=
  dialect.keyWidth.all fun limit =>
    key.foldl (fun width written => width + written.width) 2 + blanks.length ≤ limit &&
      !key.any (breaksLine dialect) && !blanks.any fun blank => (dialect.lineBreak? blank).isSome

def decimalNumber (digits : List Char) : Nat :=
  digits.foldl (fun value digit => 10 * value + (digit.toNat - '0'.toNat)) 0

/-- An exponent, and whether a sign is written before its digits. -/
structure Exponent where
  value : Int
  isSigned : Bool

/-- Reads the exponent of a number, if it has one.  An `e` without digits is not
an exponent and stays unread. -/
def readExponent (text : List Char) : Option Exponent × List Char :=
  match text with
  | mark :: rest =>
      if mark = 'e' ∨ mark = 'E' then
        let (sign, unsigned) : Option Bool × List Char := match rest with
          | '-' :: more => (some true, more)
          | '+' :: more => (some false, more)
          | more => (none, more)
        let digits := unsigned.takeWhile Char.isDigit
        if digits.isEmpty then (none, text)
        else
          let size : Int := decimalNumber digits
          (some ⟨if sign = some true then -size else size, sign.isSome⟩,
            unsigned.dropWhile Char.isDigit)
      else (none, text)
  | [] => (none, [])

/-- Reads the digits behind the point of a number.  A point without digits is
not part of the number and stays unread. -/
def readFraction (text : List Char) : List Char × List Char :=
  match text with
  | '.' :: rest =>
      let digits := rest.takeWhile Char.isDigit
      if digits.isEmpty then ([], text) else (digits, rest.dropWhile Char.isDigit)
  | _ => ([], text)

/-- Reads a number: an integer, or a decimal if it has a point or an exponent.
A leading zero is a whole part of its own. -/
def readNumber (dialect : Dialect) (text : List Char) :
    Except ReadError (Document × List Char) :=
  let (negative, unsigned) := match text with
    | '-' :: rest => (true, rest)
    | rest => (false, rest)
  let (whole, afterWhole) := match unsigned with
    | '0' :: rest => (['0'], rest)
    | digits => (digits.takeWhile Char.isDigit, digits.dropWhile Char.isDigit)
  let (fraction, afterFraction) := readFraction afterWhole
  let (exponent, rest) := readExponent afterFraction
  let isText := dialect.exponentsAreStrict &&
    exponent.any fun exponent => fraction.isEmpty || !exponent.isSigned
  if whole.isEmpty then .error .malformed
  else if isText then
    .ok (.text (String.ofList (text.take (text.length - rest.length))), rest)
  else if fraction.isEmpty && exponent.isNone then
    if dialect.integerDigits.any (· < whole.length) then .error (.longInteger whole.length)
    else
      let size : Int := decimalNumber whole
      .ok (.integer (if negative then -size else size), rest)
  else
    let digits := decimalNumber (whole ++ fraction)
    let power := (exponent.map Exponent.value).getD 0 - fraction.length
    .ok (.decimal (Decimal.ofWritten negative digits power), rest)

def readWord? (dialect : Dialect) (input : List Char) : Option (Document × List Char) :=
  (dialect.words.find? fun word => word.1.toList.isPrefixOf input).map fun word =>
    (word.2, input.drop word.1.length)

/-- The members of a mapping with one more written behind them: in the place of
the member with the same key, or at the end. -/
def putMember (members : List (String × Document)) (key : String) (value : Document) :
    List (String × Document) :=
  if members.any fun member => member.1 = key then
    members.map fun member => if member.1 = key then (key, value) else member
  else members ++ [(key, value)]

def skipBlanks (dialect : Dialect) (input : List Char) : List Char :=
  input.dropWhile dialect.isBlank

/-- Whether one more list or mapping may lie in `level` others. -/
def admits (dialect : Dialect) (level : Nat) : Bool :=
  dialect.levels.all (level < ·)

mutual

/-- Reads a value at the start of a text; `level` lists and mappings are open. -/
def readValue (dialect : Dialect) : Nat → Nat → List Char →
    Except ReadError (Document × List Char)
  | 0, _, _ => .error .malformed
  | fuel + 1, level, input =>
      match input with
      | '"' :: rest =>
          match readText dialect.joinsPairs [] rest with
          | none => .error .malformed
          | some (characters, more) => .ok (.text (textOf dialect characters), more)
      | '[' :: rest =>
          if admits dialect level then
            match skipBlanks dialect rest with
            | ']' :: more => .ok (.list [], more)
            | more => readItems dialect fuel (level + 1) [] more
          else .error (.deepContainer .list)
      | '{' :: rest =>
          if admits dialect level then
            match skipBlanks dialect rest with
            | '}' :: more => .ok (.mapping [], more)
            | more => readMembers dialect fuel (level + 1) [] more
          else .error (.deepContainer .mapping)
      | _ =>
          match readWord? dialect input with
          | some result => .ok result
          | none => readNumber dialect input

/-- Reads the items of a list that are still to come; `seen` holds the earlier
ones, the last one first. -/
def readItems (dialect : Dialect) : Nat → Nat → List Document → List Char →
    Except ReadError (Document × List Char)
  | 0, _, _, _ => .error .malformed
  | fuel + 1, level, seen, input =>
      match readValue dialect fuel level input with
      | .error error => .error error
      | .ok (item, rest) =>
          match skipBlanks dialect rest with
          | ']' :: more => .ok (.list (item :: seen).reverse, more)
          | ',' :: more => readItems dialect fuel level (item :: seen) (skipBlanks dialect more)
          | _ => .error .malformed

def readMembers (dialect : Dialect) : Nat → Nat → List (String × Document) → List Char →
    Except ReadError (Document × List Char)
  | 0, _, _, _ => .error .malformed
  | fuel + 1, level, seen, input =>
      match input with
      | '"' :: rest =>
          match readText dialect.joinsPairs [] rest with
          | none => .error .malformed
          | some (key, afterKey) =>
              match skipBlanks dialect afterKey with
              | ':' :: beforeValue =>
                  if keyFits dialect key (afterKey.takeWhile dialect.isBlank) then
                    match readValue dialect fuel level (skipBlanks dialect beforeValue) with
                    | .error error => .error error
                    | .ok (value, afterValue) =>
                        let members := putMember seen (textOf dialect key) value
                        match skipBlanks dialect afterValue with
                        | '}' :: more => .ok (.mapping members, more)
                        | ',' :: more =>
                            readMembers dialect fuel level members (skipBlanks dialect more)
                        | _ => .error .malformed
                  else .error .malformed
              | _ => .error .malformed
      | _ => .error .malformed

end

def read (dialect : Dialect) (text : String) : Except ReadError Document :=
  let characters := text.toList
  match readValue dialect (characters.length + 1) 0 (skipBlanks dialect characters) with
  | .error error => .error error
  | .ok (document, rest) =>
      if (skipBlanks dialect rest).isEmpty then .ok document else .error .malformed

/-- The document that a text holds, if it holds exactly one. -/
def ofText? (text : String) : Option Document :=
  (read Dialect.json text).toOption

end Document

end Nameplate
