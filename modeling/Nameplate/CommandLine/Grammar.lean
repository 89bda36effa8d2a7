import Nameplate.Text.Integer

/-!
Words of a command line.

A word is an operand or an option.  Options are written out (`--id`), possibly
shortened to a beginning that no other option shares, with their value in the
next word or behind an equals sign; flags may also be single letters (`-v`),
several of them in one word, where an equals sign behind the first one changes
nothing.  After the word `--` all words are operands.  Words that look like
negative numbers or hold a blank are operands as well.  Some grammars do not take the
word `--` for a value either, so an option that has it behind its equals sign is given
without one.

Words are taken from left to right.  What a word asks for is an event, and the
events before a mistake happen before it is noticed, so a call for help that
comes first is answered.
-/

namespace Nameplate.CommandLine

/-- The options of a command: flags by their letter, and options by their
written-out name, each with whether it takes a value. -/
structure Grammar (ω : Type) where
  letters : List (Char × ω)
  names : List (String × ω × Bool)
  /-- Whether a value that is exactly `--` is struck out. -/
  strikes : Bool

inductive Role (ω : Type) where
  | operand
  | separator
  /-- A word that looks like an option and is none. -/
  | unknown
  /-- Flags by their letters, the first of them known.  The rest of the word has
  to be letters of flags as well, and is none at all if the equals sign that sets
  it off has nothing behind it. -/
  | letters (option : ω) (rest : Option (List Char))
  | name (option : ω) (takesValue : Bool) (value : Option String)

structure Word (ω : Type) where
  text : String
  role : Role ω

inductive Event (ω : Type) where
  /-- An option; flags have no value, and other options may be given without. -/
  | option (option : ω) (value : Option String)
  | operand (text : String)
  /-- A command with the words that are left to it. -/
  | command (name : String) (words : List String)
  | surplus

/-- The events of a command line, and whether its words ran out or one of them
was misused. -/
structure Reading (ω : Type) where
  events : List (Event ω)
  complete : Bool

variable {ω : Type}

/-- Digits, and nothing else but a line break at the end. -/
def endsInDigits (text : List Char) : Bool :=
  let digits := text.takeWhile fun character => (Text.digitValue? character).isSome
  let rest := text.drop digits.length
  !digits.isEmpty && (rest.isEmpty || rest == ['\n'])

def looksNegative (text : List Char) : Bool :=
  match text with
  | '-' :: rest =>
      let whole := rest.takeWhile fun character => (Text.digitValue? character).isSome
      endsInDigits rest ||
        match rest.drop whole.length with
        | '.' :: fraction => endsInDigits fraction
        | _ => false
  | _ => false

/-- A text divided at its first equals sign. -/
def splitValue (text : List Char) : List Char × Option String :=
  let before := text.takeWhile (· ≠ '=')
  match text.drop before.length with
  | _ :: value => (before, some (String.ofList value))
  | [] => (before, none)

namespace Grammar

def letter? (grammar : Grammar ω) (letter : Char) : Option ω :=
  grammar.letters.lookup letter

def beginning (grammar : Grammar ω) (start : List Char) : List (String × ω × Bool) :=
  grammar.names.filter fun entry => start.isPrefixOf entry.1.toList

def nameRole? (grammar : Grammar ω) (text : List Char) : Option (Role ω) :=
  let (start, value) := splitValue text
  match grammar.names.find? fun entry => entry.1.toList = text with
  | some (_, option, takesValue) => some (.name option takesValue none)
  | none =>
      match grammar.names.find? fun entry => entry.1.toList = start with
      | some (_, option, takesValue) => some (.name option takesValue value)
      | none =>
          match grammar.beginning start with
          | [] => some .unknown
          | [(_, option, takesValue)] => some (.name option takesValue value)
          | _ => none

/-- The role of a word; none if it could be short for several options. -/
def role? (grammar : Grammar ω) (word : String) : Option (Role ω) :=
  let text := word.toList
  let otherwise : Role ω :=
    if looksNegative text || text.contains ' ' then .operand else .unknown
  match text with
  | '-' :: '-' :: _ =>
      match grammar.nameRole? text with
      | some .unknown => some otherwise
      | role => role
  | '-' :: letter :: rest =>
      match grammar.letter? letter with
      | none => some otherwise
      | some option =>
          match rest with
          | ['='] => some (.letters option none)
          | '=' :: more => some (.letters option (some more))
          | more => some (.letters option (some more))
  | _ => some .operand

/-- The words with their roles; none if the role of one is not clear. -/
def classify (grammar : Grammar ω) : List String → Option (List (Word ω))
  | [] => some []
  | word :: rest =>
      if word = "--" then
        some (⟨word, .separator⟩ :: rest.map fun text => ⟨text, .operand⟩)
      else do
        let role ← grammar.role? word
        let words ← classify grammar rest
        return ⟨word, role⟩ :: words

/-- The events of flags that are written in one word, none if one of its letters
belongs to no flag.  Such a word asks for nothing, not even for what its other
letters say. -/
def letterEvents? (grammar : Grammar ω) (option : ω) (letters : List Char) :
    Option (List (Event ω)) := do
  let others ← letters.mapM grammar.letter?
  return (option :: others).map fun flag => .option flag none

/-- The value behind an equals sign, unless it is struck out. -/
def valueOf (grammar : Grammar ω) (text : String) : Option String :=
  if grammar.strikes ∧ text = "--" then none else some text

def misused : Reading ω := ⟨[], false⟩

def before (events : List (Event ω)) (reading : Reading ω) : Reading ω :=
  { reading with events := events ++ reading.events }

/-- Reads words in order.  `operands` is how many operands are still wanted; the
first operand is a command if `commands` says so, and all later words are left
to it.  `taken` says whether the word before was taken as an operand, which
takes a separator behind it along. -/
def read (grammar : Grammar ω) (commands : Bool) (operands : Nat) (taken : Bool) :
    List (Word ω) → Reading ω
  | [] => ⟨[], true⟩
  | ⟨text, .operand⟩ :: rest =>
      match operands with
      | 0 => before [.surplus] (read grammar commands 0 false rest)
      | wanted + 1 =>
          if commands then ⟨[.command text (rest.map Word.text)], true⟩
          else before [.operand text] (read grammar commands wanted true rest)
  | ⟨_, .separator⟩ :: rest =>
      if taken then read grammar commands operands false rest
      else if operands = 0 ∨ rest.isEmpty then
        before [.surplus] (read grammar commands operands false rest)
      else if commands then misused
      else read grammar commands operands false rest
  | ⟨_, .unknown⟩ :: rest => before [.surplus] (read grammar commands operands false rest)
  | ⟨_, .letters option attached⟩ :: rest =>
      match attached.bind (grammar.letterEvents? option) with
      | none => misused
      | some events => before events (read grammar commands operands false rest)
  | ⟨_, .name option true (some text)⟩ :: rest =>
      before [.option option (grammar.valueOf text)] (read grammar commands operands false rest)
  | ⟨_, .name option true none⟩ :: rest =>
      match rest with
      | ⟨value, .operand⟩ :: more =>
          before [.option option (some value)] (read grammar commands operands false more)
      | _ => misused
  | ⟨_, .name _ false (some _)⟩ :: _ => misused
  | ⟨_, .name option false none⟩ :: rest =>
      before [.option option none] (read grammar commands operands false rest)

end Grammar

end Nameplate.CommandLine
