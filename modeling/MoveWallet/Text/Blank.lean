/-
# MoveWallet.Text.Blank — white space, and text without it at either end

`isBlank` is the Unicode property `White_Space`, which is more than the ASCII blanks and does not
hold of the zero-width space U+200B.  `trim` removes blanks from both ends and leaves those inside.
-/

namespace MoveWallet.Text.Blank

set_option autoImplicit false

/-- The Unicode property `White_Space`. -/
def isBlank (c : Char) : Bool :=
  let n := c.toNat
  (0x09 ≤ n && n ≤ 0x0D) || n == 0x20 || n == 0x85 || n == 0xA0 || n == 0x1680 ||
    (0x2000 ≤ n && n ≤ 0x200A) || n == 0x2028 || n == 0x2029 || n == 0x202F || n == 0x205F ||
    n == 0x3000

/-- The text from its first character that is not blank. -/
def trimStart (s : List Char) : List Char := s.dropWhile isBlank

/-- The text up to its last character that is not blank. -/
def trimEnd (s : List Char) : List Char := (s.reverse.dropWhile isBlank).reverse

/-- The text between its first and its last character that are not blank. -/
def trim (s : List Char) : List Char := trimEnd (trimStart s)

/-- A text of blanks only, the empty text included. -/
def isBlankText (s : List Char) : Bool := s.all isBlank

end MoveWallet.Text.Blank
