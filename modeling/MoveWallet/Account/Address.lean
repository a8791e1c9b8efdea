/-
# MoveWallet.Account.Address — the 32-byte native address

An address is 32 bytes.  Those that denote a number below 16 are special and are written as one hex
digit, all others as 64; both forms, and shorter ones, are read back, and so is the bech32m form
with the prefix `rooch`.  Addresses are derived by hashing: from key material, and from another
address with a seed.
-/
import MoveWallet.Bech32
import MoveWallet.Bytes.Endian
import MoveWallet.Digest.Blake2b
import MoveWallet.Digest.Sha3
import MoveWallet.Text.Blank
import MoveWallet.Text.Hex
import MoveWallet.Text.Separator
import MoveWallet.Wire.Codec

namespace MoveWallet.Account

set_option autoImplicit false

open MoveWallet.Bech32 (Bech32Error Variant lower)
open MoveWallet.Bytes.Endian
open MoveWallet.Bytes.Fixed
open MoveWallet.Digest
open MoveWallet.Text
open MoveWallet.Text.Hex (HexError)
open MoveWallet.Text.Quoted (quote)
open MoveWallet.Text.Separator

/-! ## Faults -/

/-- Why a text is not hex: it has no digits at all, or the digits are wrong. -/
inductive HexFault where
  | noDigits
  | digits (e : HexError)
  deriving DecidableEq, Repr

/-- The wording of a fault. -/
def HexFault.message : HexFault → String
  | .noDigits => "no hex digits"
  | .digits e => e.message

/-- Why a text or bytes are no address, digest or object id. -/
inductive AddressError where
  | unrecognizedFormat (text : String)
  | badHex (text : String) (fault : HexFault)
  | badBech32 (text : String) (fault : Bech32Error)
  | wrongPrefix (expected found : String)
  | wrongLength (expected actual : Nat)
  | emptyObjectId
  deriving DecidableEq, Repr

/-- The wording of a fault. -/
def AddressError.message : AddressError → String
  | .unrecognizedFormat text => "unrecognized address format: " ++ quote text
  | .badHex text fault => "invalid hex in " ++ quote text ++ ": " ++ fault.message
  | .badBech32 text fault => "invalid bech32 address " ++ quote text ++ ": " ++ fault.message
  | .wrongPrefix expected found =>
      "unexpected bech32 prefix " ++ quote found ++ " (expected " ++ quote expected ++ ")"
  | .wrongLength expected actual => s!"invalid length (expected {expected} bytes, got {actual})"
  | .emptyObjectId => "empty object id"

/-! ## Addresses -/

/-- A native address. -/
structure Address where
  bytes : FixedBytes 32
  deriving DecidableEq

namespace Address

/-- The address of a number below 2^256. -/
def ofNat (n : Nat) : Address := ⟨FixedBytes.bigEndian 32 n⟩

/-- The number that an address denotes. -/
def toNat (a : Address) : Nat := ofBigEndian a.bytes.toList

/-- The address whose bytes are all zero. -/
def zero : Address := ⟨FixedBytes.zero 32⟩

/-- The address with given bytes, of which there must be 32. -/
def ofBytes (bs : List UInt8) : Except AddressError Address :=
  match FixedBytes.ofList? 32 bs with
  | some b => .ok ⟨b⟩
  | none => .error (.wrongLength 32 bs.length)

/-- All bytes are zero. -/
def isZero (a : Address) : Bool := a.bytes.isZero

/-- The first 31 bytes are zero and the last is below 16. -/
def isSpecial (a : Address) : Bool :=
  (a.bytes.toList.take 31).all (· == 0) && (a.bytes.toList.drop 31).all (· < 16)

/-! ### Text -/

/-- The 64 digits. -/
def digits (a : Address) : String := Hex.encode a.bytes.toList

/-- The 64 digits after `0x`. -/
def toHexLong (a : Address) : String := "0x" ++ a.digits

/-- One digit for a special address, 64 for any other. -/
def toHex (a : Address) : String :=
  if a.isSpecial then
    "0x" ++ String.ofList ((a.bytes.toList.drop 31).map fun b => Hex.digit b.toNat)
  else a.toHexLong

/-- The prefix of the bech32m form. -/
def hrp : String := "rooch"

/-- The bech32m form. -/
def toBech32 (a : Address) : String := Bech32.writeBytes .bech32m hrp a.bytes.toList

/-- A text without `0x` or `0X` in front, and whether it had it. -/
def stripMarker (s : List Char) : List Char × Bool :=
  match dropPrefix? ['0', 'x'] s with
  | some rest => (rest, true)
  | none =>
      match dropPrefix? ['0', 'X'] s with
      | some rest => (rest, true)
      | none => (s, false)

/-- Reads 1 to 64 hex digits, with or without `0x`, as a number.  Zeros are put in front up to 64
characters. -/
def ofHexLiteral (text : String) : Except AddressError Address :=
  let ds := (stripMarker text.toList).1
  let size := (Utf8.encode ds).length
  if ds.isEmpty then .error (.badHex text .noDigits)
  else if size > 64 then .error (.wrongLength 32 ((size + 1) / 2))
  else
    match Hex.decodeFixed 32 (String.ofList (List.replicate (64 - ds.length) '0' ++ ds)) with
    | .ok bs => ofBytes bs
    | .error e => .error (.badHex text (.digits e))

/-- Reads the bech32m form. -/
def ofBech32 (text : String) : Except AddressError Address :=
  match Bech32.read .bech32m text with
  | .error e => .error (.badBech32 text e)
  | .ok content =>
      if content.hrp = hrp then ofBytes content.bytes
      else .error (.wrongPrefix hrp content.hrp)

/-- A text that begins like the bech32m form, in any case. -/
def looksLikeBech32 (s : List Char) : Bool :=
  (dropPrefix? (hrp.toList ++ ['1']) (s.map lower)).isSome

/-- Reads an address in any form, with blanks round it or not. -/
def parse (text : String) : Except AddressError Address :=
  let s := Blank.trim text.toList
  if looksLikeBech32 s then ofBech32 (String.ofList s)
  else
    let (ds, marked) := stripMarker s
    if marked || (!ds.isEmpty && ds.all Hex.isDigit) then ofHexLiteral (String.ofList s)
    else .error (.unrecognizedFormat (String.ofList s))

/-- The 64-digit form of a hex text. -/
def normalize (text : String) : Except AddressError String := do
  let a ← ofHexLiteral text
  return a.toHexLong

/-- The form that messages for developers use. -/
def debugText (a : Address) : String := "RoochAddress(" ++ a.toHex ++ ")"

/-! ### Order -/

/-- Addresses in the order of their bytes. -/
def le (a b : Address) : Bool := lexLe a.bytes.toList b.bytes.toList

/-- The different addresses of a list in order. -/
def sorted (as : List Address) : List Address := as.eraseDups.mergeSort le

/-! ### Derivation -/

/-- The address whose bytes are a SHA3-256 digest. -/
def ofSha3 (message : List UInt8) : Address := ⟨⟨Sha3.sha3 message, Sha3.length_sha3 message⟩⟩

/-- The address whose bytes are a BLAKE2b digest. -/
def ofBlake2b (message : List UInt8) : Address :=
  ⟨⟨Blake2b.blake2b message, Blake2b.length_blake2b message⟩⟩

/-- The address of a key: the BLAKE2b digest of a byte that tells the kind of key, and the key. -/
def ofKeyMaterial (kind : UInt8) (key : List UInt8) : Address := ofBlake2b (kind :: key)

/-- What an address is derived for; the byte keeps the kinds apart. -/
inductive Purpose where
  | objectFromSeed
  | objectFromGuid
  | namedObject
  | resourceAccount
  deriving DecidableEq, Repr

/-- The byte of a purpose. -/
def Purpose.byte : Purpose → UInt8
  | .objectFromSeed => 0xFC
  | .objectFromGuid => 0xFD
  | .namedObject => 0xFE
  | .resourceAccount => 0xFF

/-- The SHA3-256 digest of an address, a seed and a byte. -/
def derive (a : Address) (seed : List UInt8) (byte : UInt8) : Address :=
  ofSha3 (a.bytes.toList ++ seed ++ [byte])

/-- The address derived from a seed for a purpose. -/
def deriveFor (a : Address) (p : Purpose) (seed : List UInt8) : Address := a.derive seed p.byte

/-! ### Wire form -/

/-- The 32 bytes. -/
def codec : Wire.Codec Address := (Wire.Codec.fixed 32).map Address.mk Address.bytes

end Address

end MoveWallet.Account
