/-
# MoveWallet.Text.Numeral — unsigned decimal numbers of bounded size

`readBelow limit` reads an optional plus sign and decimal digits.  It goes from digit to digit, so
of a bad digit and a number that is too large it reports the one that comes first.
-/

namespace MoveWallet.Text.Numeral

set_option autoImplicit false

/-- Why a text is not a number in range. -/
inductive NumeralError where
  | empty
  | badDigit
  | tooLarge
  deriving DecidableEq, Repr

/-- The wording of a fault. -/
def NumeralError.message : NumeralError → String
  | .empty => "cannot parse integer from empty string"
  | .badDigit => "invalid digit found in string"
  | .tooLarge => "number too large to fit in target type"

/-- The number a decimal digit stands for. -/
def digitValue? (c : Char) : Option Nat :=
  if '0' ≤ c && c ≤ '9' then some (c.toNat - 48) else none

/-- Reads digits after those that gave `value`. -/
def readDigits (limit value : Nat) : List Char → Except NumeralError Nat
  | [] => .ok value
  | c :: rest =>
      match digitValue? c with
      | none => .error .badDigit
      | some d =>
          let next := value * 10 + d
          if next < limit then readDigits limit next rest else .error .tooLarge

/-- Reads a number below `limit`.  A sign alone is not a number. -/
def readBelow (limit : Nat) (text : String) : Except NumeralError Nat :=
  match text.toList with
  | [] => .error .empty
  | ['+'] => .error .badDigit
  | '+' :: digits => readDigits limit 0 digits
  | digits => readDigits limit 0 digits

end MoveWallet.Text.Numeral
