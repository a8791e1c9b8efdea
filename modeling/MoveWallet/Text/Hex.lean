/-
# MoveWallet.Text.Hex — bytes as hex digits

`encode` writes two lowercase digits a byte.  `decode` reads text of either case and `decodeFixed`
text for a given number of bytes; both report the first fault in the order length, then digits.
Positions in a fault count the bytes of the text.
-/
import MoveWallet.Text.Quoted
import MoveWallet.Text.Utf8

namespace MoveWallet.Text.Hex

set_option autoImplicit false

/-- Why a text is not the hex form of bytes. -/
inductive HexError where
  | oddLength
  | wrongLength
  | badDigit (digit : UInt8) (index : Nat)
  deriving DecidableEq, Repr

/-- The wording of a fault; a bad byte is shown as the character with its number. -/
def HexError.message : HexError → String
  | .oddLength => "Odd number of digits"
  | .wrongLength => "Invalid string length"
  | .badDigit digit index =>
      "Invalid character " ++ Quoted.quoteChar (Char.ofNat digit.toNat) ++
        " at position " ++ toString index

/-! ## Digits -/

/-- The lowercase digit of a number below 16. -/
def digit (n : Nat) : Char :=
  if n < 10 then Char.ofNat (48 + n) else Char.ofNat (87 + n)

/-- The number a digit of either case stands for. -/
def digitValue? (b : UInt8) : Option Nat :=
  if 48 ≤ b && b ≤ 57 then some (b.toNat - 48)
  else if 97 ≤ b && b ≤ 102 then some (b.toNat - 87)
  else if 65 ≤ b && b ≤ 70 then some (b.toNat - 55)
  else none

/-- A hex digit of either case. -/
def isDigit (c : Char) : Bool :=
  ('0' ≤ c && c ≤ '9') || ('a' ≤ c && c ≤ 'f') || ('A' ≤ c && c ≤ 'F')

/-! ## Bytes -/

/-- Two digits for every byte. -/
def encodeChars (bs : List UInt8) : List Char :=
  bs.flatMap fun b => [digit (b.toNat / 16), digit (b.toNat % 16)]

/-- The lowercase hex form of bytes. -/
def encode (bs : List UInt8) : String := String.ofList (encodeChars bs)

/-- Reads one digit at `index`. -/
def readDigit (index : Nat) (b : UInt8) : Except HexError Nat :=
  match digitValue? b with
  | some n => .ok n
  | none => .error (.badDigit b index)

/-- Reads digits two by two, the first of them at `index`. -/
def readPairs (index : Nat) : List UInt8 → Except HexError (List UInt8)
  | [] => .ok []
  | [_] => .error .oddLength
  | high :: low :: rest => do
      let h ← readDigit index high
      let l ← readDigit (index + 1) low
      let bs ← readPairs (index + 2) rest
      return UInt8.ofNat (16 * h + l) :: bs

/-- Reads the bytes of a text: an even number of digits. -/
def decodeBytes (text : List UInt8) : Except HexError (List UInt8) :=
  if text.length % 2 = 1 then .error .oddLength else readPairs 0 text

/-- Reads a text as bytes. -/
def decode (text : String) : Except HexError (List UInt8) := decodeBytes (Utf8.bytes text)

/-- Reads a text as exactly `n` bytes. -/
def decodeFixed (n : Nat) (text : String) : Except HexError (List UInt8) :=
  let bs := Utf8.bytes text
  if bs.length % 2 = 1 then .error .oddLength
  else if bs.length / 2 ≠ n then .error .wrongLength
  else readPairs 0 bs

end MoveWallet.Text.Hex
