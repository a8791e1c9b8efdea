/-
# MoveWallet.Auth.Scheme — signature schemes, signatures and what can go wrong with them

Two schemes are in use.  Each has a flag byte on the wire and a fixed length of public keys;
signatures have 64 bytes in both.
-/
import MoveWallet.Bitcoin.Network

namespace MoveWallet.Auth

set_option autoImplicit false

open MoveWallet.Bech32 (Bech32Error lower)
open MoveWallet.Bytes.Fixed
open MoveWallet.Curve.Secp256k1 (KeyError)
open MoveWallet.Text
open MoveWallet.Text.Quoted (quote)
open MoveWallet.Wire (WireError)

/-! ## Schemes -/

/-- A signature scheme. -/
inductive Scheme where
  | ed25519
  | secp256k1
  deriving DecidableEq, Repr

namespace Scheme

/-- The name of a scheme. -/
def name : Scheme → String
  | .ed25519 => "ED25519"
  | .secp256k1 => "Secp256k1"

/-- The byte of a scheme. -/
def flag : Scheme → UInt8
  | .ed25519 => 0
  | .secp256k1 => 1

/-- Length of a public key; those of the second scheme are compressed. -/
def publicKeyLength : Scheme → Nat
  | .ed25519 => 32
  | .secp256k1 => 33

/-- The byte in front of a key that an address is hashed from: the key's length. -/
def sizeByte (s : Scheme) : UInt8 := UInt8.ofNat s.publicKeyLength

end Scheme

/-- Length of a signature. -/
def signatureLength : Nat := 64

/-- Length of a secret key. -/
def secretLength : Nat := 32

/-! ## Faults -/

/-- Why bytes are no key of a scheme. -/
inductive KeyFault where
  | notAPoint
  | curve (e : KeyError)
  deriving DecidableEq, Repr

/-- The wording of a fault. -/
def KeyFault.message : KeyFault → String
  | .notAPoint => "signature error: Cannot decompress Edwards point"
  | .curve e => e.message

/-- Why a text is no exported secret. -/
inductive SecretFault where
  | bech32 (e : Bech32Error)
  | empty
  deriving DecidableEq, Repr

/-- The wording of a fault. -/
def SecretFault.message : SecretFault → String
  | .bech32 e => e.message
  | .empty => "empty payload"

/-- Why a key could not be read or a proof of authorization not be made or accepted. -/
inductive AuthError where
  | unknownFlag (flag : UInt8)
  | unknownScheme (name : String)
  | secretLength (scheme : Scheme) (actual : Nat)
  | publicKeyLength (scheme : Scheme) (expected actual : Nat)
  | signatureLength (expected actual : Nat)
  | badKey (scheme : Scheme) (fault : KeyFault)
  | selfCheck (scheme : Scheme)
  | badSecret (fault : SecretFault)
  | wrongSecretPrefix (expected found : String)
  | badMessageInfo (info : String)
  | badFromAddress (bytes : List UInt8)
  | unknownSignMode (name : String)
  | unknownValidator (id : UInt64)
  | wrongValidator (expected found : UInt64)
  | payloadLength (actual : Nat)
  | verificationFailed
  | bitcoin (e : Bitcoin.AddressError)
  | codec (e : WireError)
  deriving DecidableEq, Repr

namespace AuthError

/-- The wording of a fault. -/
def message : AuthError → String
  | unknownFlag flag => "unknown signature scheme flag " ++ toString flag.toNat
  | unknownScheme name => "unknown signature scheme '" ++ name ++ "'"
  | secretLength scheme actual =>
      "invalid " ++ scheme.name ++ " secret key length " ++ toString actual
  | publicKeyLength scheme expected actual =>
      "invalid " ++ scheme.name ++ " public key length: expected " ++ toString expected ++
        ", got " ++ toString actual
  | signatureLength expected actual =>
      s!"invalid signature length: expected {expected}, got {actual}"
  | badKey scheme fault => "invalid " ++ scheme.name ++ " key: " ++ fault.message
  | selfCheck scheme => scheme.name ++ " secret key failed self-verification"
  | badSecret fault => "invalid secret key encoding: " ++ fault.message
  | wrongSecretPrefix expected found =>
      "wrong secret key prefix: expected '" ++ expected ++ "', found '" ++ found ++ "'"
  | badMessageInfo info =>
      "message info " ++ quote info ++ " does not start with the transaction prefix"
  | badFromAddress bytes => "from address 0x" ++ Hex.encode bytes ++ " is not UTF-8 text"
  | unknownSignMode name => "unknown sign mode '" ++ name ++ "'"
  | unknownValidator id => "unknown auth validator id " ++ toString id.toNat
  | wrongValidator expected found =>
      "authenticator has validator id " ++ toString found.toNat ++ ", expected " ++
        toString expected.toNat
  | payloadLength actual => s!"invalid authenticator payload length {actual}"
  | verificationFailed => "signature verification failed"
  | bitcoin e => "bitcoin address: " ++ e.message
  | codec e => "codec: " ++ e.message

/-- The faults that a fault stems from, the nearest first. -/
def causes : AuthError → List String
  | bitcoin e => e.message :: e.causes
  | codec e => [e.message]
  | _ => []

end AuthError

/-! ## Reading schemes -/

namespace Scheme

/-- The scheme with a flag byte. -/
def ofFlag (flag : UInt8) : Except AuthError Scheme :=
  if flag = 0 then .ok .ed25519
  else if flag = 1 then .ok .secp256k1
  else .error (.unknownFlag flag)

/-- The scheme with a name in any case. -/
def parse (text : String) : Except AuthError Scheme :=
  let s := text.toList.map lower
  if s = "ed25519".toList then .ok .ed25519
  else if s = "secp256k1".toList then .ok .secp256k1
  else .error (.unknownScheme text)

end Scheme

/-! ## Signatures -/

/-- A signature and the scheme it belongs to. -/
structure Signature where
  scheme : Scheme
  bytes : FixedBytes 64
  deriving DecidableEq

namespace Signature

/-- The signature with given bytes, of which there must be 64. -/
def ofBytes (scheme : Scheme) (bs : List UInt8) : Except AuthError Signature :=
  match FixedBytes.ofList? 64 bs with
  | some b => .ok ⟨scheme, b⟩
  | none => .error (.signatureLength signatureLength bs.length)

/-- The form that messages for developers use. -/
def debugText (s : Signature) : String :=
  "Signature(" ++ s.scheme.name ++ ", 0x" ++ Hex.encode s.bytes.toList ++ ")"

end Signature

end MoveWallet.Auth
