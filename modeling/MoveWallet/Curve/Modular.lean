/-
# MoveWallet.Curve.Modular — arithmetic modulo a prime

Numbers are kept below the modulus `m`.  A power is taken bit by bit from the highest, and an
inverse is the power `m - 2`, so both are structural recursions on a list of bits.
-/

namespace MoveWallet.Curve.Modular

set_option autoImplicit false

/-- The low `width` bits of a number, highest first. -/
def bits : Nat → Nat → List Bool
  | 0, _ => []
  | width + 1, n => n.testBit width :: bits width n

/-- Difference. -/
def sub (m a b : Nat) : Nat := (a + (m - b % m)) % m

/-- Negation. -/
def neg (m a : Nat) : Nat := (m - a % m) % m

/-- Product. -/
def mul (m a b : Nat) : Nat := a * b % m

/-- Square. -/
def square (m a : Nat) : Nat := a * a % m

/-- Power with an exponent below 2^256. -/
def pow (m base exponent : Nat) : Nat :=
  (bits 256 exponent).foldl
    (fun acc bit => if bit then acc * acc % m * base % m else acc * acc % m) (1 % m)

/-- The inverse modulo a prime; zero has none and gives zero. -/
def inverse (m a : Nat) : Nat := pow m a (m - 2)

end MoveWallet.Curve.Modular
