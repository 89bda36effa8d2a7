import Nameplate.Terminal
import Nameplate.Text.Quoted

/-!
Plain texts.

A plain text consists of printable characters of ASCII, which every output takes and
none of which breaks a line.  Whatever is written without texts from outside is plain:
numbers, and the words of the program.
-/

namespace Nameplate.Text

/-- Whether a character is printable and of ASCII. -/
def IsPlain (character : Char) : Prop :=
  0x20 ≤ character.toNat ∧ character.toNat < 0x7f

instance : DecidablePred IsPlain := fun _ => inferInstanceAs (Decidable (_ ∧ _))

def AllPlain (text : List Char) : Prop :=
  ∀ character ∈ text, IsPlain character

instance : DecidablePred AllPlain := List.decidableBAll IsPlain

variable {text first second : List Char} {character : Char}

@[simp] theorem allPlain_nil : AllPlain [] := nofun

@[simp] theorem allPlain_cons : AllPlain (character :: text) ↔ IsPlain character ∧ AllPlain text :=
  List.forall_mem_cons

@[simp] theorem allPlain_append : AllPlain (first ++ second) ↔ AllPlain first ∧ AllPlain second :=
  List.forall_mem_append

theorem allPlain_replicate (count : Nat) (plain : IsPlain character) :
    AllPlain (List.replicate count character) := by
  intro other member
  rwa [List.eq_of_mem_replicate member]

theorem AllPlain.notMem (plain : AllPlain text) (special : ¬IsPlain character) :
    character ∉ text :=
  fun member => special (plain character member)

theorem AllPlain.mono (plain : AllPlain text) (part : first ⊆ text) : AllPlain first :=
  fun _ member => plain _ (part member)

theorem isPlain_digitChar (digit : Nat) : IsPlain (Nat.digitChar digit) := by
  by_cases short : digit < 16
  · revert digit
    decide
  · have replaced : Nat.digitChar digit = '*' := by
      simp (disch := omega) only [Nat.digitChar, if_neg]
    rw [replaced]
    decide

/-- The digits of a number, from its last one on. -/
theorem allPlain_toDigits {base : Nat} (large : 1 < base) (number : Nat) :
    AllPlain (Nat.toDigits base number) := by
  induction number using Nat.strongRecOn with
  | ind number inductionHypothesis =>
      rw [Nat.toDigits_eq_if large]
      split
      · simpa using isPlain_digitChar number
      · rename_i long
        have shorter : number / base < number := Nat.div_lt_self (by omega) large
        simpa using ⟨inductionHypothesis _ shorter, isPlain_digitChar (number % base)⟩

theorem allPlain_hexadecimal (width code : Nat) : AllPlain (hexadecimal width code) := by
  rw [hexadecimal, allPlain_append]
  exact ⟨allPlain_replicate _ (by decide), allPlain_toDigits (by decide) code⟩

theorem allPlain_nat (number : Nat) : AllPlain (toString number).toList := by
  rw [Nat.toString_eq_repr, Nat.repr, String.toList_ofList]
  exact allPlain_toDigits (by decide) number

theorem allPlain_int (number : Int) : AllPlain (toString number).toList := by
  cases number with
  | ofNat magnitude => exact allPlain_nat magnitude
  | negSucc magnitude =>
      change AllPlain ("-" ++ toString (magnitude + 1)).toList
      rw [String.toList_append, allPlain_append]
      exact ⟨by decide, allPlain_nat (magnitude + 1)⟩

theorem allPlain_padLeft {width : Nat} {cell : String} (plain : AllPlain cell.toList) :
    AllPlain (padLeft width cell).toList := by
  rw [padLeft, String.toList_append, String.toList_ofList, allPlain_append]
  exact ⟨allPlain_replicate _ (by decide), plain⟩

theorem allPlain_padRight {width : Nat} {cell : String} (plain : AllPlain cell.toList) :
    AllPlain (padRight width cell).toList := by
  rw [padRight, String.toList_append, String.toList_ofList, allPlain_append]
  exact ⟨plain, allPlain_replicate _ (by decide)⟩

end Nameplate.Text
