import Mathlib.Data.List.Basic

/-!
# Decimal numerals

ASCII digits read from the left. Reading on never makes the number smaller, so a bound
that is checked at every digit is a bound on the whole numeral.
-/

namespace Encoding

/-- An ASCII digit. -/
def IsDigit (letter : Char) : Prop := '0' ≤ letter ∧ letter ≤ '9'

instance (letter : Char) : Decidable (IsDigit letter) := inferInstanceAs (Decidable (_ ∧ _))

/-- The number with one more digit behind it. -/
def appendDigit (value : Nat) (digit : Char) : Nat := value * 10 + (digit.toNat - '0'.toNat)

/-- The number that the digits denote. -/
def decimal (digits : List Char) : Nat := digits.foldl appendDigit 0

/-- A further digit does not make a number smaller. -/
theorem le_appendDigit (value : Nat) (digit : Char) : value ≤ appendDigit value digit := by
  unfold appendDigit
  omega

/-- What has been read is a lower bound for the whole. -/
theorem le_foldl_appendDigit (value : Nat) (digits : List Char) :
    value ≤ digits.foldl appendDigit value := by
  induction digits generalizing value with
  | nil => exact Nat.le_refl value
  | cons digit digits inductionHypothesis =>
    exact Nat.le_trans (le_appendDigit value digit) (inductionHypothesis _)

end Encoding
