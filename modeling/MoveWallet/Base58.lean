/-
# MoveWallet.Base58 — bytes in base 58, with a checksum of four bytes

Leading zero bytes are written as leading `1`s and the rest as a number in base 58.  `writeChecked`
appends the first four bytes of a double SHA-256; `readChecked` verifies and removes them.
-/
import MoveWallet.Digest.Sha2

namespace MoveWallet.Base58

set_option autoImplicit false

open MoveWallet.Bytes.Endian
open MoveWallet.Digest.Sha2

/-- Why a text was refused. -/
inductive Base58Error where
  | badCharacter
  | tooShort
  | badChecksum
  deriving DecidableEq, Repr

/-- The wording of a fault. -/
def Base58Error.message : Base58Error → String
  | .badCharacter => "decode"
  | .tooShort => "too short"
  | .badChecksum => "incorrect checksum"

/-- The characters of the digits 0 to 57. -/
def alphabet : List Char := "123456789ABCDEFGHJKLMNPQRSTUVWXYZabcdefghijkmnopqrstuvwxyz".toList

/-- The character of a digit. -/
def digitChar (d : Nat) : Char := alphabet.getD d '1'

/-- The digit of a character. -/
def digit? (c : Char) : Option Nat := alphabet.findIdx? (· == c)

/-- Digits of a number in a base of at least two, lowest first, none for zero; `fuel` bounds their
number. -/
def digitsIn (base : Nat) : Nat → Nat → List Nat
  | 0, _ => []
  | fuel + 1, n => if n = 0 then [] else n % base :: digitsIn base fuel (n / base)

/-- A number from its digits, highest first. -/
def ofDigits (base : Nat) (ds : List Nat) : Nat := ds.foldl (fun n d => n * base + d) 0

/-! ## Bytes -/

/-- The text of bytes.  A byte takes fewer than two digits. -/
def write (bs : List UInt8) : String :=
  let zeros := (bs.takeWhile (· == 0)).length
  let digits := (digitsIn 58 (2 * bs.length) (ofBigEndian bs)).reverse
  String.ofList (List.replicate zeros '1' ++ digits.map digitChar)

/-- The bytes of a text.  A digit takes less than a byte. -/
def read? (text : String) : Option (List UInt8) := do
  let ds ← text.toList.mapM digit?
  let zeros := (ds.takeWhile (· == 0)).length
  let bytes := (digitsIn 256 ds.length (ofDigits 58 ds)).reverse
  return List.replicate zeros 0 ++ bytes.map UInt8.ofNat

/-! ## Checksum -/

/-- The four bytes that guard others. -/
def checksum (bs : List UInt8) : List UInt8 := (doubleSha256 bs).take 4

/-- The text of bytes followed by their checksum. -/
def writeChecked (bs : List UInt8) : String := write (bs ++ checksum bs)

/-- The bytes of a text whose last four are the checksum of the others. -/
def readChecked (text : String) : Except Base58Error (List UInt8) :=
  match read? text with
  | none => .error .badCharacter
  | some bs =>
      if bs.length < 4 then .error .tooShort
      else
        let payload := bs.take (bs.length - 4)
        if bs.drop (bs.length - 4) = checksum payload then .ok payload else .error .badChecksum

end MoveWallet.Base58
