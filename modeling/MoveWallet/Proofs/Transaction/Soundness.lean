/-
# MoveWallet.Proofs.Transaction.Soundness — a valid transaction was signed by its sender's key

`verify_iff_signed_by_sender` says that a transaction is valid exactly if its authenticator is a
proof for the digest of the body (`ProvesNatively`, `ProvesAsMessage`) by a key that owns the
sender's account.  There is one key in the statement: the key whose signature was checked is the key
whose owner is compared with the sender.
-/
import MoveWallet.Proofs.Auth.Soundness
import MoveWallet.Proofs.Transaction.Identity
import MoveWallet.Proofs.Transaction.Signing

namespace MoveWallet.Transaction.Signed

set_option autoImplicit false

open MoveWallet.Account
open MoveWallet.Auth
open MoveWallet.Wire

/-- The proof of a valid transaction was checked for one of the two validators, and its signer is the
sender. -/
theorem checks_of_verify {t : Signed} {mode : SignMode} (valid : t.verify mode = .ok ()) :
    ∃ bs key, Body.codec.encode t.body = .ok bs ∧
      t.authenticator.signer = .ok t.body.sender ∧
      (t.authenticator.verifyNative (Digest32.sha3 bs).bytes.toList = .ok key ∨
        ∃ p, t.authenticator.bitcoinPayload = .ok p ∧
          p.verify (Digest32.sha3 bs).bytes.toList mode = .ok key) := by
  unfold Signed.verify at valid
  obtain ⟨hash, hashed, valid⟩ := bind_eq_ok.mp valid
  obtain ⟨bs, written, made⟩ := bind_eq_ok.mp (TransactionError.ofWire_eq_ok.mp hashed)
  cases made
  obtain ⟨validator, -, valid⟩ := bind_eq_ok.mp valid
  cases validator with
  | native =>
    obtain ⟨key, checked, valid⟩ := bind_eq_ok.mp valid
    obtain ⟨signer, found, sender⟩ := bind_eq_ok.mp valid
    rw [TransactionError.ofAuth_eq_ok] at checked found
    rw [← checkSender_eq_ok.mp sender] at found
    exact ⟨bs, key, written, found, .inl checked⟩
  | bitcoin =>
    obtain ⟨p, payload, valid⟩ := bind_eq_ok.mp valid
    obtain ⟨key, checked, valid⟩ := bind_eq_ok.mp valid
    obtain ⟨signer, found, sender⟩ := bind_eq_ok.mp valid
    rw [TransactionError.ofAuth_eq_ok] at payload checked found
    rw [← checkSender_eq_ok.mp sender] at found
    exact ⟨bs, key, written, found, .inr ⟨p, payload, checked⟩⟩

theorem proved_of_verify {t : Signed} {mode : SignMode} (valid : t.verify mode = .ok ()) :
    ∃ bs key, Body.codec.encode t.body = .ok bs ∧
      t.body.sender = key.account ∧ t.authenticator.signer = .ok key.account ∧
      (t.authenticator.ProvesNatively (Digest32.sha3 bs).bytes.toList key ∨
        t.authenticator.ProvesAsMessage (Digest32.sha3 bs).bytes.toList mode key) := by
  obtain ⟨bs, key, written, signer, checked⟩ := checks_of_verify valid
  -- in both cases the signer is the owner of the key that was checked
  rcases checked with native | ⟨p, payload, checked⟩
  · have owner := Authenticator.signer_of_verifyNative native
    have sender := Except.ok.inj (signer.symm.trans owner)
    exact ⟨bs, key, written, sender, owner, .inl (Authenticator.provesNatively_iff.mpr native)⟩
  · have owner := Authenticator.signer_of_verify payload checked
    have sender := Except.ok.inj (signer.symm.trans owner)
    have proved := Authenticator.provesAsMessage_iff.mpr ⟨p, payload, checked⟩
    exact ⟨bs, key, written, sender, owner, .inr proved⟩

/-- A transaction is valid exactly if one key owns the sender's account and is proved, natively or
by a Bitcoin message in the given mode, to have signed the SHA3-256 digest of the body's bytes.  A
transaction for any other validator is refused. -/
theorem verify_iff_signed_by_sender (t : Signed) (mode : SignMode) :
    (t.verify mode = .ok () ↔
      ∃ bs key, Body.codec.encode t.body = .ok bs ∧
        t.body.sender = key.account ∧ t.authenticator.signer = .ok key.account ∧
        (t.authenticator.ProvesNatively (Digest32.sha3 bs).bytes.toList key ∨
          t.authenticator.ProvesAsMessage (Digest32.sha3 bs).bytes.toList mode key)) ∧
    (t.authenticator.validatorId ≠ 0 → t.authenticator.validatorId ≠ 1 →
      ∃ e, t.verify mode = .error e) := by
  refine ⟨⟨proved_of_verify, ?_⟩, ?_⟩
  · rintro ⟨bs, key, written, sender, signer, proved⟩
    have hashed := Body.hash_of_encode written
    rw [← sender] at signer
    rcases proved with native | message
    · have validator := Authenticator.validator_eq_native.mpr native.1
      have checked := Authenticator.provesNatively_iff.mp native
      exact verify_of_native hashed validator checked signer
    · have validator := Authenticator.validator_eq_bitcoin.mpr message.1
      obtain ⟨p, payload, checked⟩ := Authenticator.provesAsMessage_iff.mp message
      exact verify_of_bitcoin hashed validator payload checked signer
  · intro notNative notBitcoin
    rcases result : t.verify mode with e | ⟨⟩
    · exact ⟨e, rfl⟩
    · obtain ⟨bs, key, -, -, -, native | message⟩ := proved_of_verify result
      · exact absurd native.1 notNative
      · exact absurd message.1 notBitcoin

end MoveWallet.Transaction.Signed
