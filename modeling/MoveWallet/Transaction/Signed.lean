/-
# MoveWallet.Transaction.Signed — transactions with their proof of authorization

Signing refuses a key that does not own the sender's account.  Verifying checks the proof against
the body's digest and then that the key that was checked owns the sender's account.
-/
import MoveWallet.Transaction.Body

namespace MoveWallet.Transaction

set_option autoImplicit false

open MoveWallet.Account
open MoveWallet.Auth
open MoveWallet.Text
open MoveWallet.Wire

/-- A body and its proof of authorization. -/
structure Signed where
  body : Body
  authenticator : Authenticator
  deriving DecidableEq

/-- Refuses a signer that is not the sender. -/
def checkSender (b : Body) (signer : Address) : Except TransactionError Unit :=
  if b.sender = signer then .ok () else .error (.senderMismatch b.sender signer)

namespace Signed

/-- Body and proof. -/
def codec : Codec Signed :=
  (Body.codec.pair Authenticator.codec).map (fun p => ⟨p.1, p.2⟩) fun t => (t.body, t.authenticator)

/-- Signs a body with a native proof. -/
def signNative (b : Body) (k : Keypair) : Except TransactionError Signed := do
  checkSender b k.account
  let hash ← TransactionError.ofWire b.hash
  return ⟨b, Authenticator.native hash.bytes.toList k⟩

/-- Signs a body as a Bitcoin message whose info is normalized first. -/
def signBitcoin (b : Body) (secret : SecretNumber) (info : String) (mode : SignMode)
    (network : Bitcoin.Network) : Except TransactionError Signed := do
  checkSender b (Keypair.secp256k1 secret).account
  let hash ← TransactionError.ofWire b.hash
  let m := SignedMessage.normalized hash.bytes.toList info
  let a ← TransactionError.ofAuth (Authenticator.bitcoin m secret mode network)
  return ⟨b, a⟩

/-- Checks the proof against the body.  The mode matters to Bitcoin proofs only. -/
def verify (t : Signed) (mode : SignMode) : Except TransactionError Unit := do
  let hash ← TransactionError.ofWire t.body.hash
  let validator ← TransactionError.ofAuth t.authenticator.validator
  match validator with
  | .native => do
      let _ ← TransactionError.ofAuth (t.authenticator.verifyNative hash.bytes.toList)
  | .bitcoin => do
      let p ← TransactionError.ofAuth t.authenticator.bitcoinPayload
      let _ ← TransactionError.ofAuth (p.verify hash.bytes.toList mode)
  let signer ← TransactionError.ofAuth t.authenticator.signer
  checkSender t.body signer

/-! ## Hex -/

/-- The bytes in hex after `0x`. -/
def toHex (t : Signed) : Except WireError String := do
  let bs ← codec.encode t
  return "0x" ++ Hex.encode bs

/-- Reads the bytes in hex, with or without `0x`. -/
def ofHex (text : String) : Except TransactionError Signed :=
  match Hex.decode (withoutMarker text) with
  | .error e => .error (.badHex e)
  | .ok bs => TransactionError.ofWire (codec.decodeExact bs)

end Signed

end MoveWallet.Transaction
