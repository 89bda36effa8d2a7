import Nameplate.Proofs.Tag.Forms

/-!
What stands between the braces of a placeholder.

The grammar has a kind, a colon and a path; a path is one or more names with dots between
them.  Every text without braces falls into one of five classes: it holds no colon, or it
is not divided as the grammar says, or its kind does not exist, or no tag of its kind has its
path, or it is the text of a tag.
-/

namespace Nameplate

namespace Text

theorem pieces_eq_splitOn (separator : Char) (text : List Char) :
    pieces separator text = text.splitOn separator := by
  induction text with
  | nil => rfl
  | cons character rest inductionHypothesis =>
      rw [List.splitOn_eq_splitOnP, List.splitOnP_cons_eq_if_modifyHead,
        ← List.splitOn_eq_splitOnP, ← inductionHypothesis]
      obtain ⟨piece, more, divided⟩ := List.exists_cons_of_ne_nil (pieces_ne_nil separator rest)
      by_cases same : character = separator <;> simp [pieces, same, divided]

end Text

namespace Placeholder

def IsLetter (character : Char) : Prop :=
  ('A' ≤ character ∧ character ≤ 'Z') ∨ ('a' ≤ character ∧ character ≤ 'z')

def IsDigit (character : Char) : Prop :=
  '0' ≤ character ∧ character ≤ '9'

def IsNameCharacter (character : Char) : Prop :=
  IsLetter character ∨ IsDigit character ∨ character = '_' ∨ character = '-'

def IsName (name : String) : Prop :=
  name ≠ "" ∧ ∀ character ∈ name.toList, IsNameCharacter character

/-- A letter, and name characters behind it. -/
def IsKind (kind : String) : Prop :=
  ∃ first rest, kind.toList = first :: rest ∧ IsLetter first ∧
    ∀ character ∈ rest, IsNameCharacter character

/-- One or more names with dots between them. -/
def IsPath (path : String) : Prop :=
  ∃ names : List String, names ≠ [] ∧ (∀ name ∈ names, IsName name) ∧
    path = ".".intercalate names

/-- A body that the grammar divides into a kind and a path. -/
structure Divides (body kind path : String) : Prop where
  joined : body = kind ++ ":" ++ path
  isKind : IsKind kind
  isPath : IsPath path

theorem isAlpha_iff {character : Char} : character.isAlpha = true ↔ IsLetter character := by
  have ranges : character.isAlpha =
      (decide (character.val ≥ 'A'.val ∧ character.val ≤ 'Z'.val) ||
        (decide (character.val ≥ 'a'.val) && decide (character.val ≤ 'z'.val))) := rfl
  simp [ranges, IsLetter, Char.le_def]

theorem isWordChar_iff {character : Char} :
    isWordChar character = true ↔ IsNameCharacter character := by
  simp [isWordChar, Char.isAlphanum, isAlpha_iff, IsNameCharacter, IsDigit, Char.isDigit,
    Char.le_def, or_assoc]

theorem isKindWord_iff {kind : String} : isKindWord kind.toList = true ↔ IsKind kind := by
  unfold IsKind
  cases kind.toList with
  | nil => simp [isKindWord]
  | cons first rest => simp [isKindWord, isAlpha_iff, isWordChar_iff]

theorem isName_ofList_iff {name : List Char} :
    IsName (String.ofList name) ↔ (!name.isEmpty && name.all isWordChar) = true := by
  simp [IsName, isWordChar_iff]

theorem dot_notMem_of_isName {name : String} (isName : IsName name) : '.' ∉ name.toList := by
  intro member
  have accepted : isWordChar '.' = true := isWordChar_iff.mpr (isName.2 '.' member)
  contradiction

theorem isDottedPath_iff {path : String} : isDottedPath path.toList = true ↔ IsPath path := by
  rw [isDottedPath, List.all_eq_true]
  constructor
  · intro named
    refine ⟨(Text.pieces '.' path.toList).map String.ofList, ?_, ?_, ?_⟩
    · simpa using Text.pieces_ne_nil '.' path.toList
    · intro name member
      obtain ⟨piece, isPiece, rfl⟩ := List.mem_map.mp member
      exact isName_ofList_iff.mpr (named piece isPiece)
    · apply String.toList_injective
      have same : ((Text.pieces '.' path.toList).map String.ofList).map String.toList =
          Text.pieces '.' path.toList := by simp [Function.comp_def]
      rw [String.toList_intercalate, same, Text.pieces_eq_splitOn]
      exact (List.intercalate_splitOn '.').symm
  · intro isPath piece isPiece
    obtain ⟨names, nonempty, named, rfl⟩ := isPath
    have clear : ∀ piece ∈ names.map String.toList, '.' ∉ piece := by
      intro piece member
      obtain ⟨name, isListed, rfl⟩ := List.mem_map.mp member
      exact dot_notMem_of_isName (named name isListed)
    rw [Text.pieces_eq_splitOn, String.toList_intercalate] at isPiece
    change piece ∈ (['.'].intercalate (names.map String.toList)).splitOn '.' at isPiece
    rw [List.splitOn_intercalate '.' clear (by simpa using nonempty)] at isPiece
    obtain ⟨name, isListed, rfl⟩ := List.mem_map.mp isPiece
    refine isName_ofList_iff.mp ?_
    rw [String.ofList_toList]
    exact named name isListed

theorem colon_notMem_of_isKind {kind : String} (isKind : IsKind kind) : ':' ∉ kind.toList := by
  obtain ⟨first, rest, shape, letter, named⟩ := isKind
  have isLetter : first.isAlpha = true := isAlpha_iff.mpr letter
  intro member
  rw [shape] at member
  rcases List.mem_cons.mp member with rfl | later
  · contradiction
  · have accepted : isWordChar ':' = true := isWordChar_iff.mpr (named ':' later)
    contradiction

/-- A kind holds no colon, so the grammar divides at the first one, if at all. -/
theorem divides_iff {body kind path : String} :
    Divides body kind path ↔
      Text.cut? ':' body.toList = some (kind.toList, path.toList) ∧
        (isKindWord kind.toList && isDottedPath path.toList) = true := by
  rw [Bool.and_eq_true, isKindWord_iff, isDottedPath_iff, Text.cut?_eq_some_iff]
  constructor
  · intro divides
    obtain ⟨rfl, isKind, isPath⟩ := divides
    exact ⟨⟨by simp, colon_notMem_of_isKind isKind⟩, isKind, isPath⟩
  · intro divided
    obtain ⟨⟨joined, _⟩, isKind, isPath⟩ := divided
    refine ⟨?_, isKind, isPath⟩
    apply String.toList_injective
    rw [joined]
    simp

/-- The placeholder that has a body. -/
def braced (body : String) : String := "\x7b" ++ body ++ "\x7d"

/-- What is wrong with a body that is not the text of a tag. -/
inductive Refused (body : String) : Template.Cause → Prop where
  | noColon (absent : ':' ∉ body.toList) : Refused body (.noColon body)
  | malformed (present : ':' ∈ body.toList) (undivided : ¬∃ kind path, Divides body kind path) :
      Refused body (.malformed body)
  | unknownKind {kind path : String} (divides : Divides body kind path)
      (unknown : ∀ known : Kind, known.text ≠ kind) :
      Refused body (.unknownTag body (.unknownKind kind path))
  | unknownProperty {kind : Kind} {path : String} (divides : Divides body kind.text path)
      (missing : ∀ tag : Tag, tag.kind = kind → tag.path ≠ path) :
      Refused body (.unknownTag body (.unknownProperty kind path))

namespace Refused

variable {body : String}

theorem noColon_iff : Refused body (.noColon body) ↔ ':' ∉ body.toList := by
  refine ⟨?_, .noColon⟩
  intro refused
  cases refused
  assumption

theorem malformed_iff : Refused body (.malformed body) ↔
    ':' ∈ body.toList ∧ ¬∃ kind path, Divides body kind path := by
  refine ⟨?_, fun both => .malformed both.1 both.2⟩
  intro refused
  cases refused with
  | malformed present undivided => exact ⟨present, undivided⟩

theorem unknownKind_iff {kind path : String} :
    Refused body (.unknownTag body (.unknownKind kind path)) ↔
      Divides body kind path ∧ ∀ known : Kind, known.text ≠ kind := by
  refine ⟨?_, fun both => .unknownKind both.1 both.2⟩
  intro refused
  cases refused with
  | unknownKind divides unknown => exact ⟨divides, unknown⟩

theorem unknownProperty_iff {kind : Kind} {path : String} :
    Refused body (.unknownTag body (.unknownProperty kind path)) ↔
      Divides body kind.text path ∧ ∀ tag : Tag, tag.kind = kind → tag.path ≠ path := by
  refine ⟨?_, fun both => .unknownProperty both.1 both.2⟩
  intro refused
  cases refused with
  | unknownProperty divides missing => exact ⟨divides, missing⟩

end Refused

theorem text_or_refused (body : String) :
    (∃ tag : Tag, body = tag.text) ∨ ∃ cause, Refused body cause := by
  by_cases colon : ':' ∈ body.toList
  · by_cases divided : ∃ kind path, Divides body kind path
    · obtain ⟨kind, path, divides⟩ := divided
      rcases Tag.parts_cases kind path with ⟨tag, named⟩ | unknown | ⟨known, named, missing⟩
      · exact .inl ⟨tag, by rw [divides.joined, named.1, named.2, Tag.text]⟩
      · exact .inr ⟨_, .unknownKind divides unknown⟩
      · subst named
        exact .inr ⟨_, .unknownProperty divides missing⟩
    · exact .inr ⟨_, .malformed colon divided⟩
  · exact .inr ⟨_, .noColon colon⟩

end Placeholder

namespace Template

open Placeholder

theorem placeholderTag_of_divides {body kind path : String} (divides : Divides body kind path) :
    placeholderTag body.toList = (Tag.ofParts kind path).mapError (.unknownTag body) := by
  obtain ⟨divided, formed⟩ := divides_iff.mp divides
  simp only [placeholderTag, divided, formed, if_true, String.ofList_toList]
  cases Tag.ofParts kind path <;> rfl

theorem placeholderTag_of_refused {body : String} {cause : Cause} (refused : Refused body cause) :
    placeholderTag body.toList = .error cause := by
  cases refused with
  | noColon absent =>
      simp only [placeholderTag, Text.cut?_eq_none_iff.mpr absent, String.ofList_toList]
  | malformed present undivided =>
      cases divided : Text.cut? ':' body.toList with
      | none => exact absurd present (Text.cut?_eq_none_iff.mp divided)
      | some parts =>
          obtain ⟨kind, path⟩ := parts
          have unformed : ¬(isKindWord kind && isDottedPath path) = true := by
            intro formed
            refine undivided ⟨String.ofList kind, String.ofList path, divides_iff.mpr ?_⟩
            simp only [String.toList_ofList]
            exact ⟨divided, formed⟩
          simp only [placeholderTag, divided, unformed, String.ofList_toList]
          rfl
  | unknownKind divides unknown =>
      rw [placeholderTag_of_divides divides, Tag.ofParts_unknownKind unknown]
      rfl
  | unknownProperty divides missing =>
      rw [placeholderTag_of_divides divides, Tag.ofParts_unknownProperty missing]
      rfl

theorem placeholderTag_eq_error_iff {body : String} {cause : Cause} :
    placeholderTag body.toList = .error cause ↔ Refused body cause := by
  refine ⟨?_, placeholderTag_of_refused⟩
  intro failed
  rcases text_or_refused body with ⟨tag, written⟩ | ⟨other, refused⟩
  · rw [placeholderTag_eq_ok_iff.mpr (congrArg String.toList written)] at failed
    contradiction
  · rw [placeholderTag_of_refused refused] at failed
    cases failed
    exact refused

/-- Whether the placeholder of a body is refused for a cause, at its opening brace. -/
def Refuses (body : String) (cause : Cause) : Prop :=
  parse (braced body) = .error ⟨braced body, 0, cause⟩

theorem message_noColon (body : String) : Error.message ⟨braced body, 0, .noColon body⟩ =
    "Invalid placeholder '" ++ braced body ++ "' at position 0: expected '" ++
      braced "kind:property" ++ "'." := by
  apply String.toList_injective
  simp [Error.message, Error.placeholder?, Cause.placeholder?, braced]

theorem message_malformed (body : String) : Error.message ⟨braced body, 0, .malformed body⟩ =
    "Malformed placeholder '" ++ braced body ++ "' at position 0. Kind and property must " ++
      "be non-empty and contain only alphanumerics, hyphens, underscores, or dots " ++
      "between names." := by
  apply String.toList_injective
  simp [Error.message, Error.placeholder?, Cause.placeholder?, braced]

section Classes

variable {body : String} (noOpening : '{' ∉ body.toList) (noClosing : '}' ∉ body.toList)
include noOpening noClosing

theorem parse_braced :
    parse (braced body) =
      match placeholderTag body.toList with
      | .error cause => .error ⟨braced body, 0, cause⟩
      | .ok tag => .ok ⟨[.tag tag]⟩ := by
  have shape : (braced body).toList = '{' :: (body.toList ++ ['}']) := by simp [braced]
  rw [parse, shape, scan_closed (head?_closed_ne_opening noOpening []) noClosing, closedTag,
    if_neg noOpening]
  cases placeholderTag body.toList with
  | error cause => rfl
  | ok tag => rfl

theorem refuses_iff {cause : Cause} : Refuses body cause ↔ Refused body cause := by
  rw [Refuses, parse_braced noOpening noClosing, ← placeholderTag_eq_error_iff]
  cases placeholderTag body.toList <;> simp

theorem parse_braced_eq_ok_iff {template : Template} :
    parse (braced body) = .ok template ↔
      ∃ tag : Tag, body = tag.text ∧ template = ⟨[.tag tag]⟩ := by
  have accepts (tag : Tag) : body = tag.text ↔ placeholderTag body.toList = .ok tag := by
    rw [placeholderTag_eq_ok_iff, String.toList_inj]
  rw [parse_braced noOpening noClosing]
  simp only [accepts]
  cases placeholderTag body.toList with
  | error cause => simp
  | ok tag => simp [eq_comm]

theorem placeholder_classified :
    (Refuses body (.noColon body) ↔ ':' ∉ body.toList) ∧
      (Refuses body (.malformed body) ↔
        ':' ∈ body.toList ∧ ¬∃ kind path, Divides body kind path) ∧
      (∀ kind path, Refuses body (.unknownTag body (.unknownKind kind path)) ↔
        Divides body kind path ∧ ∀ known : Kind, known.text ≠ kind) ∧
      (∀ (kind : Kind) (path : String),
        Refuses body (.unknownTag body (.unknownProperty kind path)) ↔
          Divides body kind.text path ∧ ∀ tag : Tag, tag.kind = kind → tag.path ≠ path) ∧
      (∀ template, parse (braced body) = .ok template ↔
        ∃ tag : Tag, body = tag.text ∧ template = ⟨[.tag tag]⟩) ∧
      ((∃ tag : Tag, body = tag.text) ∨ Refuses body (.noColon body) ∨
        Refuses body (.malformed body) ∨
        (∃ kind path, Refuses body (.unknownTag body (.unknownKind kind path))) ∨
        ∃ kind path, Refuses body (.unknownTag body (.unknownProperty kind path))) ∧
      Error.message ⟨braced body, 0, .noColon body⟩ =
        "Invalid placeholder '" ++ braced body ++ "' at position 0: expected '" ++
          braced "kind:property" ++ "'." ∧
      Error.message ⟨braced body, 0, .malformed body⟩ =
        "Malformed placeholder '" ++ braced body ++ "' at position 0. Kind and property must " ++
          "be non-empty and contain only alphanumerics, hyphens, underscores, or dots " ++
          "between names." := by
  have succeeds := @parse_braced_eq_ok_iff body noOpening noClosing
  simp only [refuses_iff noOpening noClosing]
  refine ⟨Refused.noColon_iff, Refused.malformed_iff, fun _ _ => Refused.unknownKind_iff,
    fun _ _ => Refused.unknownProperty_iff, fun _ => succeeds, ?_, message_noColon body,
    message_malformed body⟩
  rcases text_or_refused body with written | ⟨cause, refused⟩
  · exact .inl written
  · refine .inr ?_
    cases refused with
    | noColon absent => exact .inl (.noColon absent)
    | malformed present undivided => exact .inr (.inl (.malformed present undivided))
    | unknownKind divides unknown => exact .inr (.inr (.inl ⟨_, _, .unknownKind divides unknown⟩))
    | unknownProperty divides missing =>
        exact .inr (.inr (.inr ⟨_, _, .unknownProperty divides missing⟩))

end Classes

/-- A path that is followed by a line break is no path. -/
theorem placeholder_classified_lineBreak :
    '{' ∉ "node:node.name\n".toList ∧ '}' ∉ "node:node.name\n".toList ∧
      Refuses "node:node.name\n" (.malformed "node:node.name\n") ∧
      ¬∃ kind path, Divides "node:node.name\n" kind path := by
  have noOpening : '{' ∉ "node:node.name\n".toList := by decide
  have noClosing : '}' ∉ "node:node.name\n".toList := by decide
  have refused : Refuses "node:node.name\n" (.malformed "node:node.name\n") := rfl
  obtain ⟨_, malformed, _⟩ := placeholder_classified noOpening noClosing
  exact ⟨noOpening, noClosing, refused, (malformed.mp refused).2⟩

/-- Empty names, a second colon and a letter with an accent are all malformed; a kind that
is none comes before its path. -/
example : Refuses "node:media..name" (.malformed "node:media..name") ∧
    Refuses "node:node:name" (.malformed "node:node:name") ∧
    Refuses "nöde:node.name" (.malformed "nöde:node.name") ∧
    Refuses "port:-" (.unknownTag "port:-" (.unknownKind "port" "-")) := ⟨rfl, rfl, rfl, rfl⟩

end Template

end Nameplate
