import Nameplate.Text.Printable
import Nameplate.Text.Surrogates

/-!
Quoted texts.

Messages show a text between quotation marks, with every character that could
not be read off the page written as an escape.  Apostrophes delimit the text
unless it holds an apostrophe and no double quote.
-/

namespace Nameplate.Text

def hexadecimal (width code : Nat) : List Char :=
  let digits := Nat.toDigits 16 code
  List.replicate (width - digits.length) '0' ++ digits

def delimiter (text : List Char) : Char :=
  if '\'' ∈ text ∧ '"' ∉ text then '"' else '\''

/-- One character of a quoted text: the delimiter and the backslash behind a
backslash, line breaks and tabs by letter, other characters that are not
printable by their code in two, four or eight digits. -/
def quotedChar (mark character : Char) : List Char :=
  if character = mark ∨ character = '\\' then ['\\', character]
  else if character = '\n' then ['\\', 'n']
  else if character = '\r' then ['\\', 'r']
  else if character = '\t' then ['\\', 't']
  else if isPrintable character then [character]
  else
    let code := codeOf character
    if code < 0x100 then '\\' :: 'x' :: hexadecimal 2 code
    else if code < 0x10000 then '\\' :: 'u' :: hexadecimal 4 code
    else '\\' :: 'U' :: hexadecimal 8 code

def quoted (text : String) : String :=
  let characters := text.toList
  let mark := delimiter characters
  String.ofList (mark :: characters.flatMap (quotedChar mark) ++ [mark])

example : quoted "it's" = "\"it's\"" ∧ quoted "a\n\x00" = "'a\\n\\x00'" := by
  decide +kernel

end Nameplate.Text
