import Nameplate.Document

/-!
Writing documents as text.

Texts are written in ASCII: other characters are escaped by their code, those
beyond the basic plane as a surrogate pair, and half of a pair alone.  The indented
form puts every item and every member on a line of its own, two columns deeper than
its container; empty containers stay on one line.
-/

namespace Nameplate

namespace Document

def unitEscape (unit : Nat) : List Char :=
  '\\' :: 'u' :: Text.hexadecimal 4 unit

def writtenChar (character : Char) : List Char :=
  if character = '"' then ['\\', '"']
  else if character = '\\' then ['\\', '\\']
  else if character = '\n' then ['\\', 'n']
  else if character = '\r' then ['\\', 'r']
  else if character = '\t' then ['\\', 't']
  else if character = '\x08' then ['\\', 'b']
  else if character = '\x0c' then ['\\', 'f']
  else if 0x20 ≤ character.toNat ∧ character.toNat < 0x7f then [character]
  else
    let code := Text.codeOf character
    if code < 0x10000 then unitEscape code
    else
      let offset := code - 0x10000
      unitEscape (0xd800 + offset / 0x400) ++ unitEscape (0xdc00 + offset % 0x400)

/-- A text between double quotes, in ASCII. -/
def writtenText (text : String) : String :=
  String.ofList ('"' :: text.toList.flatMap writtenChar ++ ['"'])

def lineAt (depth : Nat) : String :=
  "\n" ++ String.ofList (List.replicate (2 * depth) ' ')

mutual

/-- A document in the indented form, as it stands at an indentation depth. -/
def indentedAt (depth : Nat) : Document → String
  | .null => "null"
  | .bool true => "true"
  | .bool false => "false"
  | .integer value => toString value
  | .decimal value => value.written
  | .text value => writtenText value
  | .list [] => "[]"
  | .list (item :: rest) =>
      "[" ++ lineAt (depth + 1) ++
        ("," ++ lineAt (depth + 1)).intercalate
          (indentedAt (depth + 1) item :: indentedItems (depth + 1) rest) ++
        lineAt depth ++ "]"
  | .mapping [] => "\x7b\x7d"
  | .mapping ((key, value) :: rest) =>
      "\x7b" ++ lineAt (depth + 1) ++
        ("," ++ lineAt (depth + 1)).intercalate
          ((writtenText key ++ ": " ++ indentedAt (depth + 1) value) ::
            indentedMembers (depth + 1) rest) ++
        lineAt depth ++ "\x7d"

def indentedItems (depth : Nat) : List Document → List String
  | [] => []
  | item :: rest => indentedAt depth item :: indentedItems depth rest

def indentedMembers (depth : Nat) : List (String × Document) → List String
  | [] => []
  | (key, value) :: rest =>
      (writtenText key ++ ": " ++ indentedAt depth value) :: indentedMembers depth rest

end

def indented (document : Document) : String :=
  indentedAt 0 document

end Document

end Nameplate
