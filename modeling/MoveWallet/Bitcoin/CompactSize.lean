/-
# MoveWallet.Bitcoin.CompactSize — lengths in one, three, five or nine bytes

Numbers up to 252 take one byte; larger ones follow a marker byte that tells their width, least
significant byte first.  `write` picks the shortest form that holds the number.
-/
import MoveWallet.Bytes.Endian

namespace MoveWallet.Bitcoin.CompactSize

set_option autoImplicit false

open MoveWallet.Bytes.Endian

/-- The shortest form of a number below 2^64. -/
def write (n : Nat) : List UInt8 :=
  if n < 0xFD then [UInt8.ofNat n]
  else if n < UInt16.size then 0xFD :: littleEndian 2 n
  else if n < UInt32.size then 0xFE :: littleEndian 4 n
  else 0xFF :: littleEndian 8 n

/-- Reads a number of `width` bytes. -/
def readWidth (width : Nat) (bs : List UInt8) : Option (Nat × List UInt8) :=
  if width ≤ bs.length then some (ofLittleEndian (bs.take width), bs.drop width) else none

/-- Reads a number in any of the forms, and what follows it. -/
def read? : List UInt8 → Option (Nat × List UInt8)
  | [] => none
  | b :: rest =>
      if b < 0xFD then some (b.toNat, rest)
      else if b = 0xFD then readWidth 2 rest
      else if b = 0xFE then readWidth 4 rest
      else readWidth 8 rest

end MoveWallet.Bitcoin.CompactSize
