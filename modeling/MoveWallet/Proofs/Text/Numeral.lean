/-
# MoveWallet.Proofs.Text.Numeral — decimal digits are read as their number, or as too large

The reader goes from digit to digit and stops as soon as what it has read reaches the limit.  More
digits never make a number smaller (`le_numberFrom`), so it stops exactly if the whole number reaches
the limit, however many zeros stand in front.
-/
import MoveWallet.Text.Numeral

namespace MoveWallet.Text.Numeral

set_option autoImplicit false

/-- A decimal digit. -/
def isDigit (c : Char) : Bool := '0' ≤ c && c ≤ '9'

/-- The number that digits denote behind those that gave `value`, the highest first. -/
def numberFrom (value : Nat) (ds : List Char) : Nat :=
  ds.foldl (fun n c => n * 10 + (c.toNat - 48)) value

/-- The number that digits denote. -/
def number (ds : List Char) : Nat := numberFrom 0 ds

variable {limit value : Nat} {ds : List Char}

theorem digitValue?_of_isDigit {c : Char} (h : isDigit c = true) :
    digitValue? c = some (c.toNat - 48) := if_pos h

/-- More digits do not make a number smaller. -/
theorem le_numberFrom (value : Nat) (ds : List Char) : value ≤ numberFrom value ds := by
  induction ds generalizing value with
  | nil => exact Nat.le_refl value
  | cons c ds ih =>
    have later := ih (value * 10 + (c.toNat - 48))
    have step : numberFrom value (c :: ds) = numberFrom (value * 10 + (c.toNat - 48)) ds := rfl
    omega

/-- Digits are read as their number exactly if it is below the limit. -/
theorem readDigits_of_digits (digits : ds.all isDigit = true) (small : value < limit) :
    readDigits limit value ds =
      if numberFrom value ds < limit then .ok (numberFrom value ds) else .error .tooLarge := by
  induction ds generalizing value with
  | nil => exact (if_pos small).symm
  | cons c ds ih =>
    rw [List.all_cons, Bool.and_eq_true] at digits
    obtain ⟨digit, others⟩ := digits
    have step : numberFrom value (c :: ds) = numberFrom (value * 10 + (c.toNat - 48)) ds := rfl
    rw [readDigits, digitValue?_of_isDigit digit, step]
    by_cases next : value * 10 + (c.toNat - 48) < limit
    · simp only [if_pos next, ih others next]
    · have later := le_numberFrom (value * 10 + (c.toNat - 48)) ds
      have large : ¬ numberFrom (value * 10 + (c.toNat - 48)) ds < limit := by omega
      simp only [if_neg next, if_neg large]

/-- So are digits without a sign. -/
theorem readBelow_of_digits {text : String} (nonempty : text.toList ≠ [])
    (digits : text.toList.all isDigit = true) (positive : 0 < limit) :
    readBelow limit text =
      if number text.toList < limit then .ok (number text.toList) else .error .tooLarge := by
  rw [number, ← readDigits_of_digits digits positive]
  obtain ⟨c, rest, whole⟩ := List.exists_cons_of_ne_nil nonempty
  have unsigned : c ≠ '+' := by
    rintro rfl
    rw [whole] at digits
    cases digits
  rw [readBelow, whole]
  split
  · rename_i empty
    cases empty
  · rename_i sign
    cases sign
    exact absurd rfl unsigned
  · rename_i sign
    cases sign
    exact absurd rfl unsigned
  · rfl

end MoveWallet.Text.Numeral
