import Nameplate.Text.Quoted

/-!
Text for terminals.

A painted text stands between the code that switches a style on and the code that
switches every style off; both are the terminal's own.  Without colour nothing is
added, so painting is then the identity.

A standard output takes the texts that are printed to it as long as it can encode
them.  Every output can encode ASCII.  The error output takes every text, and writes
half of a surrogate pair by its code.
-/

namespace Nameplate

inductive Style where
  | magenta
  | green
  | yellow
  | red
  | cyan
  | bright
  | dim
deriving DecidableEq, Repr

/-- The codes that switch the styles on, and the one that switches all of them off. -/
structure Palette where
  code : Style → String
  reset : String

/-- The numbered codes that most terminals have. -/
def Palette.numbered : Palette where
  code
    | .magenta => "\x1b[35m"
    | .green => "\x1b[32m"
    | .yellow => "\x1b[33m"
    | .red => "\x1b[31m"
    | .cyan => "\x1b[36m"
    | .bright => "\x1b[1m"
    | .dim => "\x1b[2m"
  reset := "\x1b[0m"

/-- A text in a style; without a palette colour is off. -/
def paint (palette : Option Palette) (style : Style) (text : String) : String :=
  match palette with
  | some palette => palette.code style ++ text ++ palette.reset
  | none => text

@[simp] theorem paint_none (style : Style) (text : String) : paint none style text = text := rfl

def padRight (width : Nat) (text : String) : String :=
  text ++ String.ofList (List.replicate (width - text.length) ' ')

def padLeft (width : Nat) (text : String) : String :=
  String.ofList (List.replicate (width - text.length) ' ') ++ text

def unlines (lines : List String) : String :=
  String.join (lines.map (· ++ "\n"))

theorem unlines_append (first second : List String) :
    unlines (first ++ second) = unlines first ++ unlines second := by
  rw [unlines, List.map_append, String.join_append, unlines, unlines]

/-- A standard output. -/
structure Output where
  isTerminal : Bool
  palette : Palette
  /-- Whether a character has a code in the encoding of the output. -/
  encodes : Char → Bool
  encodes_of_ascii : ∀ character : Char, character.toNat < 128 → encodes character = true
  /-- What is said of a text that cannot be encoded. -/
  complaint : String → String

namespace Output

/-- What is said of a text with halves of surrogate pairs: where its first ones lie, and
which half it is if there is only one. -/
def utf8Complaint (text : String) : String :=
  let first := text.toList.findIdx Text.isHalf
  let halves := (text.toList.drop first).takeWhile Text.isHalf
  let place := match halves with
    | [half] => " " ++ Text.quoted (String.singleton half) ++ " in position " ++ toString first
    | _ => "s in position " ++ toString first ++ "-" ++ toString (first + halves.length - 1)
  "'utf-8' codec can't encode character" ++ place ++ ": surrogates not allowed"

/-- An output that can encode every character, but no half of a surrogate pair. -/
def utf8 (isTerminal : Bool) : Output where
  isTerminal := isTerminal
  palette := .numbered
  encodes character := !Text.isHalf character
  encodes_of_ascii character ascii := by
    have small : ¬Text.halfOffset ≤ character.toNat := by
      unfold Text.halfOffset
      omega
    rw [Text.isHalf, decide_eq_false small, Bool.false_and, Bool.not_false]
  complaint := utf8Complaint

def takes (output : Output) (text : String) : Bool :=
  text.toList.all output.encodes

/-- What an output holds when some texts were printed, one after another.  The first
one that it cannot encode ends the printing, and is told. -/
def print (output : Output) : List String → String × Option String
  | [] => ("", none)
  | text :: rest =>
      if output.takes text then
        let printed := output.print rest
        (text ++ printed.1, printed.2)
      else ("", some text)

end Output

/-- A text as the error output writes it. -/
def spellHalves (text : String) : String :=
  String.ofList <| text.toList.flatMap fun character =>
    if Text.isHalf character then '\\' :: 'u' :: Text.hexadecimal 4 (Text.codeOf character)
    else [character]

/-- The texts that are printed for some lines: each one, and the end of it. -/
def endedLines (lines : List String) : List String :=
  lines.flatMap fun line => [line, "\n"]

end Nameplate
