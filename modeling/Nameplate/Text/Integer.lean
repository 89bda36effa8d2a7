/-!
Integers written by people.

An integer argument may stand between blanks, may have a sign, may group its
digits with single underscores, and may use the decimal digits of any script.
-/

namespace Nameplate.Text

/-- The zero of every run of ten decimal digits above ASCII: the general
category Nd of Unicode 14. -/
def zeroDigits : List Nat := [
  1632, 1776, 1984, 2406, 2534, 2662, 2790, 2918, 3046, 3174,
  3302, 3430, 3558, 3664, 3792, 3872, 4160, 4240, 6112, 6160,
  6470, 6608, 6784, 6800, 6992, 7088, 7232, 7248, 42528, 43216,
  43264, 43472, 43504, 43600, 44016, 65296, 66720, 68912, 69734, 69872,
  69942, 70096, 70384, 70736, 70864, 71248, 71360, 71472, 71904, 72016,
  72784, 73040, 73120, 92768, 92864, 93008, 120782, 120792, 120802, 120812,
  120822, 123200, 123632, 125264, 130032]

def digitValue? (character : Char) : Option Nat :=
  let code := character.toNat
  if code < 128 then
    if 48 ≤ code ∧ code ≤ 57 then some (code - 48) else none
  else
    (zeroDigits.find? fun first => decide (first ≤ code ∧ code < first + 10)).map (code - ·)

def isBlank (character : Char) : Bool :=
  let code := character.toNat
  code = 32 || (9 ≤ code && code ≤ 13) || code = 0x85 || code = 0xa0 || code = 0x1680 ||
    (0x2000 ≤ code && code ≤ 0x200a) || code = 0x2028 || code = 0x2029 || code = 0x202f ||
    code = 0x205f || code = 0x3000

/-- The longest run of digits that is read as an integer.  Integers are written
without a limit: those that were read are no longer than this, and callers are
assumed to use no longer ones either. -/
def maximumDigits : Nat := 4300

def longIntegerMessage (digits : Nat) : String :=
  "Exceeds the limit (" ++ toString maximumDigits ++
    " digits) for integer string conversion: value has " ++ toString digits ++
    " digits; use sys.set_int_max_str_digits() to increase the limit"

/-- Digits with single underscores between them, read after the value so far.
`afterDigit` says whether an underscore may come next. -/
def digitsValue? (value : Nat) (afterDigit : Bool) : List Char → Option Nat
  | [] => if afterDigit then some value else none
  | '_' :: rest => if afterDigit then digitsValue? value false rest else none
  | character :: rest =>
      (digitValue? character).bind fun digit => digitsValue? (10 * value + digit) true rest

def trimBlanks (text : List Char) : List Char :=
  ((text.dropWhile isBlank).reverse.dropWhile isBlank).reverse

def integer? (text : String) : Option Int :=
  let body := trimBlanks text.toList
  let (negative, digits) := match body with
    | '-' :: rest => (true, rest)
    | '+' :: rest => (false, rest)
    | rest => (false, rest)
  if (digits.filter (· ≠ '_')).length ≤ maximumDigits then
    (digitsValue? 0 false digits).map fun value =>
      if negative then -(value : Int) else (value : Int)
  else none

example : integer? " 1_0 " = some 10 ∧ integer? "-0" = some 0 ∧ integer? "+٥" = some 5 ∧
    integer? "1__0" = none ∧ integer? "_1" = none ∧ integer? "" = none := by
  decide +kernel

end Nameplate.Text
