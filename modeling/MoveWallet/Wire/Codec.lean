/-
# MoveWallet.Wire.Codec — written forms of values

A `Codec` pairs a writer with a reader.  Integers are little-endian and of fixed width, byte arrays
stand as they are, everything of variable length follows its length, and a union follows the index
of its variant.  Records are written field after field, so their codecs are built from `pair`, `map`
and `refine`.
-/
import MoveWallet.Bytes.Endian
import MoveWallet.Wire.Uleb128

namespace MoveWallet.Wire

set_option autoImplicit false

open MoveWallet.Bytes.Endian
open MoveWallet.Bytes.Fixed
open MoveWallet.Text

/-- The bytes that a writer makes of a value, or why it cannot. -/
abbrev Encoding : Type := Except WireError (List UInt8)

/-- One encoding after another; the first fault wins. -/
def Encoding.append (x y : Encoding) : Encoding := do
  let a ← x
  let b ← y
  return a ++ b

instance : Append Encoding := ⟨Encoding.append⟩

/-- A writer and a reader of values. -/
structure Codec (α : Type) where
  encode : α → Encoding
  decode : Decoder α

/-! ## Lengths and variants -/

/-- A length: a number below 2^32. -/
def encodeLength (n : Nat) : Encoding :=
  if n < UInt32.size then .ok (Uleb128.encode (UInt32.ofNat n)) else .error .uleb128Overflow

/-- Reads a length and refuses it if fewer bytes than that remain. -/
def decodeLength : Decoder Nat := do
  let n ← Uleb128.decode
  let left ← Decoder.remaining
  if left < n.toNat then Decoder.fail (.lengthOverflow n.toNat left) else return n.toNat

/-- The index of a variant. -/
def encodeVariant (index : UInt32) : Encoding := .ok (Uleb128.encode index)

/-- Reads the index of a variant. -/
def decodeVariant : Decoder Nat := do
  let index ← Uleb128.decode
  return index.toNat

/-- The bytes of a value that spans a whole buffer. -/
def Codec.decodeExact {α : Type} (c : Codec α) (buffer : List UInt8) : Except WireError α :=
  c.decode.run buffer

/-! ## Integers -/

/-- The sizes of integers. -/
inductive Width where
  | w8 | w16 | w32 | w64 | w128 | w256
  deriving DecidableEq, Repr

/-- Size in bytes. -/
def Width.bytes : Width → Nat
  | .w8 => 1
  | .w16 => 2
  | .w32 => 4
  | .w64 => 8
  | .w128 => 16
  | .w256 => 32

/-- Size in bits. -/
def Width.bits : Width → Nat
  | .w8 => 8
  | .w16 => 16
  | .w32 => 32
  | .w64 => 64
  | .w128 => 128
  | .w256 => 256

/-- The number of integers of a width. -/
def Width.size (w : Width) : Nat := 1 <<< w.bits

namespace Codec

/-- An integer, least significant byte first. -/
def uint (w : Width) : Codec (BitVec w.bits) where
  encode n := .ok (littleEndian w.bytes n.toNat)
  decode := do
    let bs ← Decoder.readBytes w.bytes
    return BitVec.ofNat w.bits (ofLittleEndian bs)

/-- A 64-bit word. -/
def word : Codec UInt64 where
  encode n := (uint .w64).encode n.toBitVec
  decode := do
    let n ← (uint .w64).decode
    return UInt64.ofBitVec n

/-- A number in groups of seven bits. -/
def uleb128 : Codec UInt32 where
  encode n := .ok (Uleb128.encode n)
  decode := Uleb128.decode

/-! ## Truth values, bytes and text -/

/-- One byte, zero or one. -/
def bool : Codec Bool where
  encode b := .ok [if b then 1 else 0]
  decode := do
    let b ← Decoder.readByte
    if b = 0 then return false
    else if b = 1 then return true
    else Decoder.fail (.badBool b)

/-- Bytes as they are, without a length. -/
def fixed (n : Nat) : Codec (FixedBytes n) where
  encode a := .ok a.toList
  decode := Decoder.readFixed n

/-- Bytes after their number. -/
def bytes : Codec (List UInt8) where
  encode bs := encodeLength bs.length ++ (.ok bs : Encoding)
  decode := do
    let n ← decodeLength
    Decoder.readAnnounced n

/-- Text as UTF-8 after its length in bytes. -/
def text : Codec String where
  encode s := bytes.encode (Utf8.bytes s)
  decode := do
    let bs ← bytes.decode
    Decoder.ofOption .badUtf8 (Utf8.decode bs)

/-! ## Composition -/

variable {α β : Type}

/-- The encodings of values one after another. -/
def encodeMany (encode : α → Encoding) : List α → Encoding
  | [] => .ok []
  | a :: as => encode a ++ encodeMany encode as

/-- Values after their number. -/
def vec (c : Codec α) : Codec (List α) where
  encode as := encodeLength as.length ++ encodeMany c.encode as
  decode := do
    let n ← decodeLength
    c.decode.readMany n

/-- A zero byte for no value; a one and the value otherwise. -/
def option (c : Codec α) : Codec (Option α) where
  encode
    | none => .ok [0]
    | some a => (.ok [1] : Encoding) ++ c.encode a
  decode := do
    let b ← Decoder.readByte
    if b = 0 then return none
    else if b = 1 then
      let a ← c.decode
      return some a
    else Decoder.fail (.badOptionTag b)

/-- Two values, the first first. -/
def pair (c : Codec α) (d : Codec β) : Codec (α × β) where
  encode p := c.encode p.1 ++ d.encode p.2
  decode := do
    let a ← c.decode
    let b ← d.decode
    return (a, b)

/-- The same bytes for another type of the same values. -/
def map (c : Codec α) (build : α → β) (parts : β → α) : Codec β where
  encode b := c.encode (parts b)
  decode := do
    let a ← c.decode
    return build a

/-- The same bytes for those values that `build?` accepts; the fault is `e` for the others. -/
def refine (c : Codec α) (e : WireError) (build? : α → Option β) (parts : β → α) : Codec β where
  encode b := c.encode (parts b)
  decode := do
    let a ← c.decode
    Decoder.ofOption e (build? a)

end Codec

end MoveWallet.Wire
