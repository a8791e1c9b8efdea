/-
# MoveWallet.Text.CodeRange — sets of characters as ranges of code points

A set is a list of ranges, each with its first and its last code point, that ascend and do not
overlap.  `covers` looks a code point up.
-/

namespace MoveWallet.Text.CodeRange

set_option autoImplicit false

/-- Looks a code point up in ranges that ascend: the first range that ends at or after it decides. -/
def covers : List (Nat × Nat) → Nat → Bool
  | [], _ => false
  | (low, high) :: rest, n => if n ≤ high then low ≤ n else covers rest n

end MoveWallet.Text.CodeRange
