import Nameplate.Document.Writer
import Nameplate.Proofs.Terminal.Printing

/-!
Written documents.

A document is written in plain characters and line breaks, whatever characters its
texts have.  So every output takes it.
-/

namespace Nameplate

namespace Text

/-- Lines of plain characters. -/
def AllLaid (text : List Char) : Prop :=
  ∀ character ∈ text, IsPlain character ∨ character = '\n'

instance : DecidablePred AllLaid :=
  List.decidableBAll fun character => IsPlain character ∨ character = '\n'

variable {text first second : List Char}

theorem AllPlain.laid (plain : AllPlain text) : AllLaid text :=
  fun character member => .inl (plain character member)

theorem allLaid_append : AllLaid (first ++ second) ↔ AllLaid first ∧ AllLaid second :=
  List.forall_mem_append

theorem allLaid_intercalate {separator : String} (between : AllLaid separator.toList) :
    ∀ {parts : List String}, (∀ part ∈ parts, AllLaid part.toList) →
      AllLaid (separator.intercalate parts).toList
  | [], _ => nofun
  | [part], each => by simpa using each
  | part :: next :: rest, each => by
      rw [List.forall_mem_cons] at each
      rw [String.intercalate_cons_cons, String.toList_append, String.toList_append, allLaid_append,
        allLaid_append]
      exact ⟨⟨each.1, between⟩, allLaid_intercalate between each.2⟩

end Text

namespace Decimal

open Text

theorem allPlain_unsignedText (digits : Nat) (exponent : Int) :
    AllPlain (unsignedText digits exponent) := by
  have zeros (count : Nat) : AllPlain (List.replicate count '0') :=
    allPlain_replicate count (by decide)
  have power (number : Nat) : AllPlain (Nat.toDigits 10 number) :=
    allPlain_toDigits (by decide) number
  have shown : AllPlain ((Nat.toDigits 10 digits).reverse.dropWhile (· = '0')).reverse := by
    refine (power digits).mono fun character member => ?_
    exact List.mem_reverse.mp (List.dropWhile_subset _ (List.mem_reverse.mp member))
  unfold unsignedText
  dsimp only
  generalize ((Nat.toDigits 10 digits).reverse.dropWhile (· = '0')).reverse = significant at shown ⊢
  have front (count : Nat) : AllPlain (significant.take count) := shown.mono (List.take_subset _ _)
  have back (count : Nat) : AllPlain (significant.drop count) := shown.mono (List.drop_subset _ _)
  have others : AllPlain significant.tail := List.drop_one ▸ back 1
  have marks : IsPlain '0' ∧ IsPlain '.' ∧ IsPlain 'e' ∧ IsPlain '-' ∧ IsPlain '+' := by decide
  split
  · decide
  split
  · simp [zeros, shown, marks]
  split
  · split <;> simp [zeros, front, back, marks]
  · split <;> split <;> simp [zeros, front, others, power, marks]

theorem allPlain_written (decimal : Decimal) : AllPlain decimal.written.toList := by
  cases decimal with
  | undefined => decide
  | infinite negative => cases negative <;> decide
  | finite negative digits exponent =>
      rw [written, text, String.toList_ofList, allPlain_append]
      refine ⟨?_, allPlain_unsignedText digits exponent⟩
      cases negative <;> decide

end Decimal

namespace Document

open Text

theorem allPlain_unitEscape (unit : Nat) : AllPlain (unitEscape unit) := by
  rw [unitEscape, allPlain_cons, allPlain_cons]
  exact ⟨by decide, by decide, allPlain_hexadecimal 4 unit⟩

/-- A character that is not plain is written by a letter or by its code. -/
theorem allPlain_writtenChar (character : Char) : AllPlain (writtenChar character) := by
  unfold writtenChar
  dsimp only
  split
  · decide
  split
  · decide
  split
  · decide
  split
  · decide
  split
  · decide
  split
  · decide
  split
  · decide
  split
  · rename_i printable
    exact allPlain_cons.mpr ⟨printable, allPlain_nil⟩
  split
  · exact allPlain_unitEscape _
  · exact allPlain_append.mpr ⟨allPlain_unitEscape _, allPlain_unitEscape _⟩

theorem allPlain_writtenText (text : String) : AllPlain (writtenText text).toList := by
  rw [writtenText, String.toList_ofList, List.cons_append, allPlain_cons, allPlain_append]
  refine ⟨by decide, ?_, by decide⟩
  intro character member
  obtain ⟨source, _, isPart⟩ := List.mem_flatMap.mp member
  exact allPlain_writtenChar source character isPart

theorem allLaid_lineAt (depth : Nat) : AllLaid (lineAt depth).toList := by
  have blanks : AllPlain (List.replicate (2 * depth) ' ') := allPlain_replicate _ (by decide)
  rw [lineAt, String.toList_append, allLaid_append]
  exact ⟨by decide, by simpa using blanks.laid⟩

/-- A container is laid out as its parts are. -/
theorem allLaid_container {opening closing : String} {parts : List String} (depth : Nat)
    (opens : AllLaid opening.toList) (closes : AllLaid closing.toList)
    (each : ∀ part ∈ parts, AllLaid part.toList) :
    AllLaid (opening ++ lineAt (depth + 1) ++ ("," ++ lineAt (depth + 1)).intercalate parts ++
      lineAt depth ++ closing).toList := by
  have between : AllLaid ("," ++ lineAt (depth + 1)).toList := by
    rw [String.toList_append, allLaid_append]
    exact ⟨by decide, allLaid_lineAt (depth + 1)⟩
  simp only [String.toList_append, allLaid_append]
  exact ⟨⟨⟨⟨opens, allLaid_lineAt (depth + 1)⟩, allLaid_intercalate between each⟩,
    allLaid_lineAt depth⟩, closes⟩

theorem allLaid_member {key value : String} (laid : AllLaid value.toList) :
    AllLaid (writtenText key ++ ": " ++ value).toList := by
  simp only [String.toList_append, allLaid_append]
  exact ⟨⟨(allPlain_writtenText key).laid, by decide⟩, laid⟩

mutual

theorem allLaid_indentedAt (depth : Nat) (document : Document) :
    AllLaid (indentedAt depth document).toList := by
  match document with
  | .null => rw [indentedAt]; decide
  | .bool true => rw [indentedAt]; decide
  | .bool false => rw [indentedAt]; decide
  | .integer value => rw [indentedAt]; exact (allPlain_int value).laid
  | .decimal value => rw [indentedAt]; exact value.allPlain_written.laid
  | .text value => rw [indentedAt]; exact (allPlain_writtenText value).laid
  | .list [] => rw [indentedAt]; decide
  | .list (item :: rest) =>
      rw [indentedAt]
      refine allLaid_container depth (by decide) (by decide) (List.forall_mem_cons.mpr ⟨?_, ?_⟩)
      · exact allLaid_indentedAt (depth + 1) item
      · exact allLaid_indentedItems (depth + 1) rest
  | .mapping [] => rw [indentedAt]; decide
  | .mapping ((key, value) :: rest) =>
      rw [indentedAt]
      refine allLaid_container depth (by decide) (by decide) (List.forall_mem_cons.mpr ⟨?_, ?_⟩)
      · exact allLaid_member (allLaid_indentedAt (depth + 1) value)
      · exact allLaid_indentedMembers (depth + 1) rest

theorem allLaid_indentedItems (depth : Nat) (items : List Document) :
    ∀ text ∈ indentedItems depth items, AllLaid text.toList := by
  match items with
  | [] => simp [indentedItems]
  | item :: rest =>
      rw [indentedItems, List.forall_mem_cons]
      exact ⟨allLaid_indentedAt depth item, allLaid_indentedItems depth rest⟩

theorem allLaid_indentedMembers (depth : Nat) (members : List (String × Document)) :
    ∀ text ∈ indentedMembers depth members, AllLaid text.toList := by
  match members with
  | [] => simp [indentedMembers]
  | (key, value) :: rest =>
      rw [indentedMembers, List.forall_mem_cons]
      exact ⟨allLaid_member (allLaid_indentedAt depth value), allLaid_indentedMembers depth rest⟩

end

end Document

/-- Every output takes a document in its indented form. -/
theorem Output.takes_indented (output : Output) (document : Document) :
    output.takes document.indented = true := by
  refine takes_of_forall fun character member => ?_
  obtain plain | same := Document.allLaid_indentedAt 0 document character member
  · exact encodes_of_isPlain plain
  · rw [same]
    exact output.encodes_of_ascii '\n' (by decide)

end Nameplate
