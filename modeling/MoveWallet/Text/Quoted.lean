/-
# MoveWallet.Text.Quoted — text and characters as messages quote them

A quoted text stands between double quotes, a quoted character between single ones.  The quote
itself, the backslash and five controls have short escapes; every other character that does not
show as itself is written by its code point in braces (`escapeCode`).
-/
import MoveWallet.Text.Unprintable

namespace MoveWallet.Text.Quoted

set_option autoImplicit false

open MoveWallet.Text.Unprintable

/-- Lowercase hex digits of a number, without leading zeros. -/
def hexDigits (n : Nat) : List Char := Nat.toDigits 16 n

/-- The escape that names a character by its code point. -/
def escapeCode (c : Char) : List Char :=
  ['\\', 'u', '\x7b'] ++ hexDigits c.toNat ++ ['\x7d']

/-- One character between quotes `quote`. -/
def escape (quote c : Char) : List Char :=
  if c = '\x00' then ['\\', '0']
  else if c = '\t' then ['\\', 't']
  else if c = '\r' then ['\\', 'r']
  else if c = '\n' then ['\\', 'n']
  else if c = quote || c = '\\' then ['\\', c]
  else if isUnprintable c then escapeCode c
  else [c]

/-- A text between double quotes. -/
def quote (s : String) : String :=
  String.ofList (['"'] ++ s.toList.flatMap (escape '"') ++ ['"'])

/-- A character between single quotes. -/
def quoteChar (c : Char) : String :=
  String.ofList (['\''] ++ escape '\'' c ++ ['\''])

end MoveWallet.Text.Quoted
