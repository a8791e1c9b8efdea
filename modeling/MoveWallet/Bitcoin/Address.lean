/-
# MoveWallet.Bitcoin.Address — Bitcoin addresses and the native address behind them

An address pays to a key's hash, to a script's hash, or to a witness program.  The first two are
written in base58, the last in bech32 or, from version one on, bech32m.  `wrapped` is the form that
does not depend on a network: a byte for the kind, the version of a witness, and the payload.  Its
BLAKE2b digest is the native address of the owner.
-/
import MoveWallet.Bitcoin.Network
import MoveWallet.Curve.Taproot

namespace MoveWallet.Bitcoin

set_option autoImplicit false

open MoveWallet.Bech32 (Content Group Variant)
open MoveWallet.Bytes.Fixed
open MoveWallet.Curve
open MoveWallet.Curve.Secp256k1 (CurveKey XOnlyKey)
open MoveWallet.Text

/-! ## What an address pays to -/

/-- The kinds of addresses. -/
inductive AddressKind where
  | pubkeyHash
  | scriptHash
  | witness
  deriving DecidableEq, Repr

/-- The kind with a given byte. -/
def AddressKind.ofByte? (b : UInt8) : Option AddressKind :=
  if b = 0 then some .pubkeyHash
  else if b = 1 then some .scriptHash
  else if b = 2 then some .witness
  else none

/-- The byte of a kind. -/
def AddressKind.byte : AddressKind → UInt8
  | .pubkeyHash => 0
  | .scriptHash => 1
  | .witness => 2

/-- What an address pays to. -/
inductive Payee where
  | pubkeyHash (hash : FixedBytes 20)
  | scriptHash (hash : FixedBytes 20)
  | witness (version : UInt8) (program : List UInt8)
  deriving DecidableEq

namespace Payee

/-- The kind of address. -/
def kind : Payee → AddressKind
  | .pubkeyHash _ => .pubkeyHash
  | .scriptHash _ => .scriptHash
  | .witness .. => .witness

/-- The version of a witness. -/
def version? : Payee → Option UInt8
  | .witness version _ => some version
  | _ => none

/-- The hash or the program. -/
def payload : Payee → List UInt8
  | .pubkeyHash hash => hash.toList
  | .scriptHash hash => hash.toList
  | .witness _ program => program

/-- Kind, version of a witness, payload. -/
def wrapped (p : Payee) : List UInt8 := p.kind.byte :: (p.version?.toList ++ p.payload)

/-- The native address of the owner. -/
def account (p : Payee) : Account.Address := Account.Address.ofBlake2b p.wrapped

end Payee

/-- Version 0 has programs of 20 or 32 bytes and version 1 of 32; later ones are not supported. -/
def checkProgram (version : UInt8) (program : List UInt8) : Except AddressError Payee :=
  if version > 1 then .error (.unsupportedVersion version.toNat)
  else if program.length = 32 || (version == 0 && program.length == 20) then
    .ok (.witness version program)
  else .error (.programLength version.toNat program.length)

/-- The checksum of a witness version. -/
def variantOf (version : UInt8) : Variant := if version = 0 then .bech32 else .bech32m

/-! ## Addresses -/

/-- An address: its text, the network it was found to be on, and what it pays to. -/
structure Address where
  text : String
  network : Network
  payee : Payee
  deriving DecidableEq

namespace Address

/-- Two addresses on one network pay to the same; their texts may differ in case. -/
def sameAs (a b : Address) : Bool := a.network == b.network && a.payee == b.payee

/-- Kind, version of a witness, payload. -/
def wrapped (a : Address) : List UInt8 := a.payee.wrapped

/-- The native address of the owner. -/
def account (a : Address) : Account.Address := a.payee.account

/-! ### Writing -/

/-- The text of an address on a network. -/
def write (network : Network) : Payee → String
  | .pubkeyHash hash => Base58.writeChecked (network.pubkeyByte :: hash.toList)
  | .scriptHash hash => Base58.writeChecked (network.scriptByte :: hash.toList)
  | .witness version program =>
      Bech32.write (variantOf version) network.hrp
        (BitVec.ofNat 5 version.toNat :: Bech32.groupsOf program)

/-- The address on a network that pays to `payee`. -/
def ofPayee (network : Network) (payee : Payee) : Address := ⟨write network payee, network, payee⟩

/-- The address of a witness program. -/
def ofWitnessProgram (version : UInt8) (program : List UInt8) (network : Network) :
    Except AddressError Address := do
  let payee ← checkProgram version program
  return ofPayee network payee

/-- The address with given wrapped bytes. -/
def ofWrapped (bs : List UInt8) (network : Network) : Except AddressError Address :=
  match bs with
  | [] => .error (.badWrapped .empty)
  | b :: rest =>
      match AddressKind.ofByte? b with
      | none => .error (.badWrapped .unknownKind)
      | some .witness =>
          match rest with
          | [] => .error (.badWrapped .missingVersion)
          | version :: program => ofWitnessProgram version program network
      | some .pubkeyHash =>
          match FixedBytes.ofList? 20 rest with
          | some hash => .ok (ofPayee network (.pubkeyHash hash))
          | none => .error (.badWrapped .hashLength)
      | some .scriptHash =>
          match FixedBytes.ofList? 20 rest with
          | some hash => .ok (ofPayee network (.scriptHash hash))
          | none => .error (.badWrapped .hashLength)

/-- The address whose wrapped bytes are in hex, with or without `0x`. -/
def ofWrappedHex (text : String) (network : Network) : Except AddressError Address :=
  match Hex.decode (Account.withoutMarker text) with
  | .ok bs => ofWrapped bs network
  | .error e => .error (.badHex text e)

/-! ### Reading -/

/-- The fewest and the most bytes of an address text. -/
def textLengths : Nat × Nat := (14, 74)

/-- The content of a bech32 or bech32m text, and which of them it is. -/
def readBech32? (text : String) : Option (Variant × Content) :=
  match Bech32.read .bech32m text with
  | .ok content => some (.bech32m, content)
  | .error _ =>
      match Bech32.read .bech32 text with
      | .ok content => some (.bech32, content)
      | .error _ => none

/-- The address that a bech32 text says. -/
def ofBech32 (text : String) (variant : Variant) (content : Content) (hint : Network) :
    Except AddressError Address :=
  match Network.ofHrp? content.hrp hint with
  | none => .error (.unknownHrp content.hrp)
  | some network =>
      match content.groups with
      | [] => .error .missingVersion
      | v :: groups =>
          if 16 < v.toNat then .error .missingVersion
          else if !Bech32.leftoverIsZero groups then .error (.badPadding text)
          else do
            let version := UInt8.ofNat v.toNat
            let payee ← checkProgram version (Bech32.bytesOf groups)
            if variant = variantOf version then return ⟨text, network, payee⟩
            else .error (.checksumVariant version.toNat)

/-- The address that a base58 text says. -/
def ofBase58 (text : String) (hint : Network) : Except AddressError Address :=
  match Base58.readChecked text with
  | .error e => .error (.badBase58 text e)
  | .ok bs =>
      match bs with
      | [] => .error (.payloadLength 0)
      | byte :: rest =>
          match FixedBytes.ofList? 20 rest with
          | none => .error (.payloadLength bs.length)
          | some hash =>
              match Network.ofVersionByte? byte hint with
              | none => .error (.unknownVersionByte byte)
              | some network =>
                  .ok ⟨text, network,
                    if byte = network.pubkeyByte then .pubkeyHash hash else .scriptHash hash⟩

/-- Reads an address; `hint` decides among test networks that its text does not tell apart. -/
def parse (text : String) (hint : Network) : Except AddressError Address :=
  let length := Utf8.byteLength text
  if length < textLengths.1 || textLengths.2 < length then .error (.wrongTextLength length)
  else
    match readBech32? text with
    | some (variant, content) => ofBech32 text variant content hint
    | none => ofBase58 text hint

/-! ### Keys -/

/-- The key in 33 compressed or 32 bytes, without its parity. -/
def readKey (bs : List UInt8) : Except AddressError XOnlyKey :=
  if bs.length = 33 then
    match CurveKey.ofCompressed? bs with
    | some key => .ok key.xOnly
    | none => .error (.badPublicKey .malformedPublicKey)
  else if bs.length = 32 then
    match XOnlyKey.ofBytes? bs with
    | some key => .ok key
    | none => .error (.badPublicKey .malformedPublicKey)
  else .error (.publicKeyLength bs.length)

end Address

/-- What the taproot address of a key with no scripts pays to. -/
def taprootPayee (key : XOnlyKey) : Payee := .witness 1 (Taproot.outputKey key).toList

/-- The wrapped bytes of a key's taproot address, laid out without the address. -/
def taprootWrapped (key : XOnlyKey) : List UInt8 :=
  AddressKind.witness.byte :: 1 :: (Taproot.outputKey key).toList

/-- The native address of a key, on every network. -/
def taprootAccount (key : XOnlyKey) : Account.Address :=
  Account.Address.ofBlake2b (taprootWrapped key)

/-- The taproot address of a key. -/
def Address.ofKey (key : XOnlyKey) (network : Network) : Address :=
  Address.ofPayee network (taprootPayee key)

/-- The taproot address of a key in 33 or 32 bytes. -/
def Address.ofPublicKey (bs : List UInt8) (network : Network) : Except AddressError Address := do
  let key ← Address.readKey bs
  Address.ofWitnessProgram 1 (Taproot.outputKey key).toList network

end MoveWallet.Bitcoin
