import Nameplate.Template

/-!
Reading templates.

`{kind:path}` is a placeholder, `{{` and `}}` stand for literal braces, and
everything else is literal text.  The reader goes over the text once, from
left to right, and blames the first place where no template can continue.
Literals come out as long as they can be: no literal is empty and no two are
neighbours.
-/

namespace Nameplate

namespace Placeholder

def isWordChar (character : Char) : Bool :=
  character.isAlphanum || character = '_' || character = '-'

/-- Whether a text is a kind word: a letter, then word characters. -/
def isKindWord : List Char → Bool
  | [] => false
  | first :: rest => first.isAlpha && rest.all isWordChar

/-- Whether a text is a dotted path: nonempty words with dots between them. -/
def isDottedPath (text : List Char) : Bool :=
  (Text.pieces '.' text).all fun word => !word.isEmpty && word.all isWordChar

end Placeholder

namespace Template

/-- Why a text is not a template.  Causes that concern a placeholder carry its
body, the text between the braces. -/
inductive Cause where
  /-- The opening brace is never closed; the text runs to the end. -/
  | unterminated (body : String)
  | nested (body : String)
  | noColon (body : String)
  /-- The body has a colon but is not a kind word and a dotted path. -/
  | malformed (body : String)
  | unknownTag (body : String) (error : TagError)
  | unmatched
deriving DecidableEq, Repr

/-- A cause and the place of the brace it is about, counted in characters. -/
structure Fault where
  position : Nat
  cause : Cause
deriving DecidableEq, Repr

structure Error where
  source : String
  position : Nat
  cause : Cause
deriving DecidableEq, Repr

def placeholderTag (body : List Char) : Except Cause Tag :=
  match Text.cut? ':' body with
  | none => .error (.noColon (String.ofList body))
  | some (kind, path) =>
      if Placeholder.isKindWord kind && Placeholder.isDottedPath path then
        match Tag.ofParts (String.ofList kind) (String.ofList path) with
        | .error error => .error (.unknownTag (String.ofList body) error)
        | .ok tag => .ok tag
      else .error (.malformed (String.ofList body))

/-- The tag of a closed placeholder, which must not hold an opening brace. -/
def closedTag (body : List Char) : Except Cause Tag :=
  if '{' ∈ body then .error (.nested (String.ofList body)) else placeholderTag body

mutual

def scan (position : Nat) : List Char → Except Fault (List Symbol)
  | [] => .ok []
  | '{' :: '{' :: rest => (scan (position + 2) rest).map (.char '{' :: ·)
  | '{' :: rest => scanBody position [] rest
  | '}' :: '}' :: rest => (scan (position + 2) rest).map (.char '}' :: ·)
  | '}' :: _ => .error ⟨position, .unmatched⟩
  | character :: rest => (scan (position + 1) rest).map (.char character :: ·)

/-- Reads on inside the placeholder that was opened at a position; `seen` holds
its characters so far, the last one first. -/
def scanBody (opened : Nat) (seen : List Char) : List Char → Except Fault (List Symbol)
  | [] => .error ⟨opened, .unterminated (String.ofList seen.reverse)⟩
  | '}' :: rest =>
      match closedTag seen.reverse with
      | .error cause => .error ⟨opened, cause⟩
      | .ok tag => (scan (opened + seen.length + 2) rest).map (.tag tag :: ·)
  | character :: rest => scanBody opened (character :: seen) rest

end

def parse (source : String) : Except Error Template :=
  match scan 0 source.toList with
  | .error fault => .error ⟨source, fault.position, fault.cause⟩
  | .ok symbols => .ok (ofSymbols symbols)

def parseAll (sources : List String) : Except Error (List Template) :=
  sources.mapM parse

def Cause.placeholder? : Cause → Option String
  | .unterminated body => some ("\x7b" ++ body)
  | .nested body | .noColon body | .malformed body | .unknownTag body _ =>
      some ("\x7b" ++ body ++ "\x7d")
  | .unmatched => none

def Error.placeholder? (error : Error) : Option String :=
  error.cause.placeholder?

def Error.message (error : Error) : String :=
  let shown := error.placeholder?.getD ""
  let place := " at position " ++ toString error.position
  match error.cause with
  | .unterminated _ => "Unterminated placeholder '" ++ shown ++ "'" ++ place ++ "."
  | .nested _ => "Nested '\x7b' in placeholder '" ++ shown ++ "'" ++ place ++ "."
  | .noColon _ =>
      "Invalid placeholder '" ++ shown ++ "'" ++ place ++
        ": expected '\x7bkind:property\x7d'."
  | .malformed _ =>
      "Malformed placeholder '" ++ shown ++ "'" ++ place ++
        ". Kind and property must be non-empty and contain only " ++
        "alphanumerics, hyphens, underscores, or dots between names."
  | .unknownTag _ reason =>
      "Invalid placeholder '" ++ shown ++ "'" ++ place ++ ": " ++ reason.message
  | .unmatched =>
      "Unmatched '\x7d'" ++ place ++ ". Use '\x7d\x7d' for a literal brace."

end Template

end Nameplate
