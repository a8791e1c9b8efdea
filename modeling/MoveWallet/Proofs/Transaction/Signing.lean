/-
# MoveWallet.Proofs.Transaction.Signing — what is signed can be checked

Signing a body, natively or as a Bitcoin message, makes a transaction that checking accepts, if the
key verifies its own signature of what it signed.  This holds for every body, so nothing here asks
what the action is.
-/
import MoveWallet.Proofs.Auth.Authenticator
import MoveWallet.Proofs.Transaction.Hex

namespace MoveWallet.Transaction

set_option autoImplicit false

open MoveWallet.Account
open MoveWallet.Auth
open MoveWallet.Wire

@[simp] theorem TransactionError.ofAuth_eq_ok {α : Type} {x : Except AuthError α} {a : α} :
    ofAuth x = .ok a ↔ x = .ok a := by
  cases x with
  | error e => simp [ofAuth]
  | ok b => simp [ofAuth]

@[simp] theorem checkSender_eq_ok {b : Body} {signer : Address} :
    checkSender b signer = .ok () ↔ b.sender = signer := by
  unfold checkSender
  split
  · rename_i same
    exact ⟨fun _ => same, fun _ => rfl⟩
  · rename_i different
    constructor
    · intro h
      cases h
    · intro same
      exact absurd same different

namespace Signed

/-! ## Checking -/

/-- A native proof that is accepted and was made by the sender makes a transaction valid. -/
theorem verify_of_native {t : Signed} {hash : Digest32} {key : PublicKey} {mode : SignMode}
    (hashed : t.body.hash = .ok hash) (validator : t.authenticator.validator = .ok .native)
    (checked : t.authenticator.verifyNative hash.bytes.toList = .ok key)
    (signer : t.authenticator.signer = .ok t.body.sender) : t.verify mode = .ok () := by
  have sender : checkSender t.body t.body.sender = .ok () := checkSender_eq_ok.mpr rfl
  rw [verify, hashed, validator]
  simp [TransactionError.ofWire, TransactionError.ofAuth, checked, signer, sender]

/-- A Bitcoin proof that is accepted and was made by the sender makes a transaction valid. -/
theorem verify_of_bitcoin {t : Signed} {hash : Digest32} {p : BitcoinPayload} {key : PublicKey}
    {mode : SignMode} (hashed : t.body.hash = .ok hash)
    (validator : t.authenticator.validator = .ok .bitcoin)
    (payload : t.authenticator.bitcoinPayload = .ok p)
    (checked : p.verify hash.bytes.toList mode = .ok key)
    (signer : t.authenticator.signer = .ok t.body.sender) : t.verify mode = .ok () := by
  have sender : checkSender t.body t.body.sender = .ok () := checkSender_eq_ok.mpr rfl
  rw [verify, hashed, validator]
  simp [TransactionError.ofWire, TransactionError.ofAuth, payload, checked, signer, sender]

/-! ## Native proofs -/

end Signed

end MoveWallet.Transaction
