/-
# MoveWallet.Auth.Authenticator — proofs that the sender authorized a transaction

An authenticator names its validator and carries a payload.  The native validator expects a
scheme's flag, a signature and a public key; the Bitcoin validator a signed message.
-/
import MoveWallet.Auth.SignedMessage

namespace MoveWallet.Auth

set_option autoImplicit false

open MoveWallet.Wire (Codec)

/-! ## Validators -/

/-- Who checks a proof. -/
inductive Validator where
  | native
  | bitcoin
  deriving DecidableEq, Repr

namespace Validator

/-- The number of a validator. -/
def id : Validator → UInt64
  | .native => 0
  | .bitcoin => 1

/-- The validator with a number. -/
def ofId (id : UInt64) : Except AuthError Validator :=
  if id = 0 then .ok .native
  else if id = 1 then .ok .bitcoin
  else .error (.unknownValidator id)

end Validator

/-! ## Authenticators -/

/-- A proof of authorization. -/
structure Authenticator where
  validatorId : UInt64
  payload : List UInt8
  deriving DecidableEq

namespace Authenticator

/-- Validator and payload. -/
def codec : Codec Authenticator :=
  (Codec.word.pair Codec.bytes).map (fun p => ⟨p.1, p.2⟩) fun a => (a.validatorId, a.payload)

/-- The native proof for a message. -/
def native (message : List UInt8) (k : Keypair) : Authenticator :=
  ⟨Validator.native.id,
    k.scheme.flag :: ((k.sign message).bytes.toList ++ k.publicKey.bytes)⟩

/-- The Bitcoin proof that holds a payload. -/
def ofPayload (p : BitcoinPayload) : Except AuthError Authenticator :=
  match BitcoinPayload.codec.encode p with
  | .ok bs => .ok ⟨Validator.bitcoin.id, bs⟩
  | .error e => .error (.codec e)

/-- The Bitcoin proof for a message whose info is a transaction's. -/
def bitcoin (m : SignedMessage) (secret : SecretNumber) (mode : SignMode)
    (network : Bitcoin.Network) : Except AuthError Authenticator :=
  if hasInfoPrefix m.info then
    ofPayload (.framed m (secret.sign (m.signingBytes mode)) secret.publicKey
      (secret.bitcoinAddress network).text)
  else .error (.badMessageInfo m.info)

/-- The validator of a proof. -/
def validator (a : Authenticator) : Except AuthError Validator := Validator.ofId a.validatorId

/-- Refuses a proof for another validator. -/
def expect (a : Authenticator) (v : Validator) : Except AuthError Unit :=
  if a.validatorId = v.id then .ok () else .error (.wrongValidator v.id a.validatorId)

/-- The signature and the key of a native proof. -/
def nativeParts (a : Authenticator) : Except AuthError (Signature × PublicKey) := do
  a.expect .native
  match a.payload with
  | [] => throw (.payloadLength 0)
  | flag :: rest =>
      let scheme ← Scheme.ofFlag flag
      if rest.length ≠ signatureLength + scheme.publicKeyLength then
        throw (.payloadLength a.payload.length)
      let signature ← Signature.ofBytes scheme (rest.take signatureLength)
      let key ← PublicKey.ofBytes scheme (rest.drop signatureLength)
      return (signature, key)

/-- Checks a native proof for a message and answers the key. -/
def verifyNative (a : Authenticator) (message : List UInt8) : Except AuthError PublicKey := do
  let (signature, key) ← a.nativeParts
  if key.verify message signature then return key else throw .verificationFailed

/-- The payload of a Bitcoin proof. -/
def bitcoinPayload (a : Authenticator) : Except AuthError BitcoinPayload := do
  a.expect .bitcoin
  match BitcoinPayload.codec.decodeExact a.payload with
  | .ok p => return p
  | .error e => throw (.codec e)

/-- The native address of the key in a proof. -/
def signer (a : Authenticator) : Except AuthError Account.Address := do
  match ← a.validator with
  | .native =>
      let (_, key) ← a.nativeParts
      return key.account
  | .bitcoin =>
      let p ← a.bitcoinPayload
      let key ← PublicKey.ofBytes .secp256k1 p.publicKey
      return key.account

end Authenticator

end MoveWallet.Auth
