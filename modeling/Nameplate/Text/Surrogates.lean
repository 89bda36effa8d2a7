/-!
Halves of surrogate pairs.

A text may hold half of a surrogate pair, if it is written there by its code, and half
of a pair is no character.  The character sixteen planes behind its code stands for it;
that one is for private use, and no text is taken to hold it for itself.
-/

namespace Nameplate.Text

def isHighSurrogate (code : Nat) : Bool := 0xd800 ≤ code && code < 0xdc00

def isLowSurrogate (code : Nat) : Bool := 0xdc00 ≤ code && code < 0xe000

def isSurrogate (code : Nat) : Bool := isHighSurrogate code || isLowSurrogate code

/-- How far behind the code of a half its character lies. -/
def halfOffset : Nat := 0x100000

/-- What stands in a text for a code of four hexadecimal digits. -/
def charOfCode (code : Nat) : Char :=
  Char.ofNat (if isSurrogate code then code + halfOffset else code)

def isHalf (character : Char) : Bool :=
  halfOffset ≤ character.toNat && isSurrogate (character.toNat - halfOffset)

/-- The code of what a character stands for. -/
def codeOf (character : Char) : Nat :=
  if isHalf character then character.toNat - halfOffset else character.toNat

theorem isSurrogate_iff {code : Nat} : isSurrogate code = true ↔ 0xd800 ≤ code ∧ code < 0xe000 := by
  simp only [isSurrogate, isHighSurrogate, isLowSurrogate, Bool.or_eq_true, Bool.and_eq_true,
    decide_eq_true_eq]
  omega

theorem toNat_charOfNat {code : Nat} (valid : code.isValidChar) :
    (Char.ofNat code).toNat = code := by
  rw [Char.ofNat, dif_pos valid]
  rfl

/-- A code is written as it was read. -/
theorem codeOf_charOfCode {code : Nat} (short : code < 0x10000) :
    codeOf (charOfCode code) = code := by
  by_cases half : isSurrogate code = true
  · have between := isSurrogate_iff.mp half
    have stands : (Char.ofNat (code + halfOffset)).toNat = code + halfOffset := by
      apply toNat_charOfNat
      unfold Nat.isValidChar halfOffset
      omega
    rw [charOfCode, if_pos half, codeOf, isHalf, stands, Nat.add_sub_cancel, half,
      decide_eq_true (Nat.le_add_left halfOffset code), Bool.and_true, if_pos rfl]
  · have outside : code < 0xd800 ∨ 0xe000 ≤ code := by
      rw [isSurrogate_iff] at half
      omega
    have stands : (Char.ofNat code).toNat = code := by
      apply toNat_charOfNat
      unfold Nat.isValidChar
      omega
    have low : ¬halfOffset ≤ code := by
      unfold halfOffset
      omega
    rw [charOfCode, if_neg half, codeOf, isHalf, stands, decide_eq_false low, Bool.false_and,
      if_neg Bool.false_ne_true]

end Nameplate.Text
