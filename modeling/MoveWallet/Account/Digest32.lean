/-
# MoveWallet.Account.Digest32 — a 32-byte digest that names something

Written as 64 hex digits after `0x`.  Text is read with or without `0x` and has to be complete.
-/
import MoveWallet.Account.Address

namespace MoveWallet.Account

set_option autoImplicit false

open MoveWallet.Bytes.Fixed
open MoveWallet.Digest
open MoveWallet.Text
open MoveWallet.Text.Separator

/-- A 32-byte digest. -/
structure Digest32 where
  bytes : FixedBytes 32
  deriving DecidableEq

/-- Hex text without a `0x` in front. -/
def withoutMarker (text : String) : String :=
  match dropPrefix? ['0', 'x'] text.toList with
  | some rest => String.ofList rest
  | none => text

/-- The bytes of hex text with or without `0x`. -/
def hexBytes (text : String) : Except AddressError (List UInt8) :=
  match Hex.decode (withoutMarker text) with
  | .ok bs => .ok bs
  | .error e => .error (.badHex text (.digits e))

namespace Digest32

/-- The SHA3-256 digest of a message. -/
def sha3 (message : List UInt8) : Digest32 :=
  ⟨⟨Sha3.sha3 message, Sha3.length_sha3 message⟩⟩

/-- The digest with given bytes, of which there must be 32. -/
def ofBytes (bs : List UInt8) : Except AddressError Digest32 :=
  match FixedBytes.ofList? 32 bs with
  | some b => .ok ⟨b⟩
  | none => .error (.wrongLength 32 bs.length)

/-- All bytes are zero. -/
def isZero (d : Digest32) : Bool := d.bytes.isZero

/-- The digits alone. -/
def digits (d : Digest32) : String := Hex.encode d.bytes.toList

/-- The digits after `0x`. -/
def toText (d : Digest32) : String := "0x" ++ d.digits

/-- The form that messages for developers use. -/
def debugText (d : Digest32) : String := "H256(" ++ d.toText ++ ")"

/-- Reads a digest. -/
def parse (text : String) : Except AddressError Digest32 := do
  let bs ← hexBytes text
  ofBytes bs

/-- The 32 bytes. -/
def codec : Wire.Codec Digest32 := (Wire.Codec.fixed 32).map Digest32.mk Digest32.bytes

end Digest32

end MoveWallet.Account
