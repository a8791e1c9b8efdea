/-
# MoveWallet.Bitcoin.Network — the Bitcoin networks and how address text shows them

Witness addresses name their network by a prefix and base58 addresses by a version byte.  Some test
networks share these, so reading takes a hint that decides among them.
-/
import MoveWallet.Account.Digest32
import MoveWallet.Base58
import MoveWallet.Curve.Secp256k1

namespace MoveWallet.Bitcoin

set_option autoImplicit false

open MoveWallet.Base58 (Base58Error)
open MoveWallet.Bech32 (Bech32Error lower)
open MoveWallet.Curve.Secp256k1 (KeyError)
open MoveWallet.Text.Hex (HexError)
open MoveWallet.Text.Quoted (quote)

/-! ## Faults of foreign addresses -/

/-- What is wrong with wrapped bytes. -/
inductive WrappedFault where
  | empty
  | unknownKind
  | missingVersion
  | hashLength
  deriving DecidableEq, Repr

/-- The wording of a fault. -/
def WrappedFault.message : WrappedFault → String
  | .empty => "empty input"
  | .unknownKind => "unknown address type"
  | .missingVersion => "missing witness version"
  | .hashLength => "hash payload must be 20 bytes"

/-- What is wrong with the text of a Nostr address. -/
inductive NostrFault where
  | bech32 (e : Bech32Error)
  | hrp (found : String)
  | keyLength (actual : Nat)
  deriving DecidableEq, Repr

/-- The wording of a fault. -/
def NostrFault.message : NostrFault → String
  | .bech32 e => e.message
  | .hrp found => "unexpected prefix " ++ quote found
  | .keyLength actual => s!"expected 32 key bytes, got {actual}"

/-- Why a text, bytes or a key make no Bitcoin or Nostr address. -/
inductive AddressError where
  | wrongTextLength (length : Nat)
  | unknownHrp (hrp : String)
  | checksumVariant (version : Nat)
  | badPadding (text : String)
  | missingVersion
  | programLength (version length : Nat)
  | unsupportedVersion (version : Nat)
  | badBase58 (text : String) (fault : Base58Error)
  | payloadLength (length : Nat)
  | unknownVersionByte (byte : UInt8)
  | badWrapped (fault : WrappedFault)
  | badHex (text : String) (fault : HexError)
  | badPublicKey (fault : KeyError)
  | publicKeyLength (length : Nat)
  | unknownNetwork (name : String)
  | badNostr (text : String) (fault : NostrFault)
  deriving DecidableEq, Repr

/-- The wording of a fault. -/
def AddressError.message : AddressError → String
  | .wrongTextLength length => s!"address length {length} outside 14..=74 characters"
  | .unknownHrp hrp => "unknown bech32 prefix " ++ quote hrp
  | .checksumVariant version => s!"wrong checksum variant for witness version {version}"
  | .badPadding text => "non-canonical padding in segwit address " ++ quote text
  | .missingVersion => "bech32 address is missing a witness version"
  | .programLength version length =>
      s!"invalid witness program length {length} for version {version}"
  | .unsupportedVersion version => s!"unsupported witness version {version}"
  | .badBase58 text fault =>
      "invalid base58check address " ++ quote text ++ ": " ++ fault.message
  | .payloadLength length => s!"invalid base58 payload length {length} (expected 21)"
  | .unknownVersionByte byte => "unknown base58 version byte " ++ Wire.byteText byte
  | .badWrapped fault => "invalid wrapped address bytes: " ++ fault.message
  | .badHex text fault => "invalid hex " ++ quote text ++ ": " ++ fault.message
  | .badPublicKey fault => "invalid public key: " ++ fault.message
  | .publicKeyLength length => s!"invalid public key length {length} (expected 32 or 33)"
  | .unknownNetwork name => "unknown bitcoin network " ++ quote name
  | .badNostr text fault => "invalid nostr address " ++ quote text ++ ": " ++ fault.message

/-- The faults that a fault stems from, the nearest first. -/
def AddressError.causes : AddressError → List String
  | .badPublicKey fault => [fault.message]
  | _ => []

/-! ## Networks -/

/-- A Bitcoin network. -/
inductive Network where
  | bitcoin
  | testnet
  | signet
  | regtest
  deriving DecidableEq, Repr

namespace Network

/-- The network used where none is chosen. -/
def standard : Network := .regtest

/-- The name of a network. -/
def name : Network → String
  | .bitcoin => "bitcoin"
  | .testnet => "testnet"
  | .signet => "signet"
  | .regtest => "regtest"

/-- The name that a node goes by for its chain. -/
def chainName : Network → String
  | .bitcoin => "main"
  | .testnet => "test"
  | .signet => "signet"
  | .regtest => "regtest"

/-- The network with an exact name. -/
def ofName? : String → Option Network
  | "bitcoin" => some .bitcoin
  | "mainnet" => some .bitcoin
  | "testnet" => some .testnet
  | "signet" => some .signet
  | "regtest" => some .regtest
  | _ => none

/-- The network with a name in any case. -/
def parse (text : String) : Except AddressError Network :=
  match ofName? (String.ofList (text.toList.map lower)) with
  | some n => .ok n
  | none => .error (.unknownNetwork text)

/-- The network whose coins have value. -/
def isMain (n : Network) : Bool := n == .bitcoin

/-- The prefix of witness addresses. -/
def hrp : Network → String
  | .bitcoin => "bc"
  | .testnet => "tb"
  | .signet => "tb"
  | .regtest => "bcrt"

/-- The version byte of addresses that pay to a key's hash. -/
def pubkeyByte (n : Network) : UInt8 := if n.isMain then 0x00 else 0x6F

/-- The version byte of addresses that pay to a script's hash. -/
def scriptByte (n : Network) : UInt8 := if n.isMain then 0x05 else 0xC4

/-- The network of a witness prefix; the hint decides between testnet and signet. -/
def ofHrp? (hrp : String) (hint : Network) : Option Network :=
  if hrp = "bc" then some .bitcoin
  else if hrp = "tb" then some (if hint = .signet then .signet else .testnet)
  else if hrp = "bcrt" then some .regtest
  else none

/-- The network of a version byte; the hint decides among the test networks. -/
def ofVersionByte? (byte : UInt8) (hint : Network) : Option Network :=
  if byte = 0x00 || byte = 0x05 then some .bitcoin
  else if byte = 0x6F || byte = 0xC4 then some (if hint.isMain then .testnet else hint)
  else none

end Network

end MoveWallet.Bitcoin
