/-
# MoveWallet.Wire.Uleb128 — numbers below 2^32 in groups of seven bits

The least significant group comes first and every byte but the last has its high bit set.  Only the
shortest form of a number is read: a last byte of zero after others is refused, and so is a sixth
byte.  Lengths and variant indices are written in this form.
-/
import MoveWallet.Wire.Decoder

namespace MoveWallet.Wire.Uleb128

set_option autoImplicit false

open MoveWallet.Wire

/-- The greatest number of bytes a number takes. -/
def maxBytes : Nat := 5

/-! ## Writing -/

/-- At most `left` groups of a number. -/
def groups : Nat → Nat → List UInt8
  | 0, _ => []
  | left + 1, n =>
      if n < 0x80 then [UInt8.ofNat n]
      else UInt8.ofNat (0x80 + n % 0x80) :: groups left (n / 0x80)

/-- The written form of a number. -/
def encode (n : UInt32) : List UInt8 := groups maxBytes n.toNat

/-- Number of bytes in the written form. -/
def encodedLength (n : UInt32) : Nat :=
  if n.toNat < 0x80 then 1
  else if n.toNat < 0x4000 then 2
  else if n.toNat < 0x200000 then 3
  else if n.toNat < 0x10000000 then 4
  else 5

/-! ## Reading -/

/-- Reads on after groups that gave `value` and filled `shift` bits, with at most `left` bytes
more. -/
def decodeFrom (value shift : Nat) : Nat → Decoder UInt32
  | 0 => Decoder.fail .uleb128Overflow
  | left + 1 => do
      let b ← Decoder.readByte
      let value := value + (b.toNat % 0x80) <<< shift
      if b < 0x80 then
        if shift ≠ 0 && b == 0 then Decoder.fail .nonCanonicalUleb128
        else if value < UInt32.size then return UInt32.ofNat value
        else Decoder.fail .uleb128Overflow
      else decodeFrom value (shift + 7) left

/-- Reads a number. -/
def decode : Decoder UInt32 := decodeFrom 0 0 maxBytes

end MoveWallet.Wire.Uleb128
