/-
# MoveWallet.Proofs.Auth.Wire — proofs of authorization are read back, and in one form only

The payload of a Bitcoin proof is five byte strings, and a proof is a number and a byte string.  So
both have the laws of the codecs that they are made of, and a payload can be written unless one of
its parts is too long (`BitcoinPayload.writes_codec`).
-/
import MoveWallet.Auth.Authenticator
import MoveWallet.Proofs.Wire.Law

namespace MoveWallet.Auth

set_option autoImplicit false

open MoveWallet.Wire

/-! ## Payloads -/

theorem faithful_bitcoinPayload : BitcoinPayload.codec.Faithful := by
  have bytes := Codec.faithful_bytes
  exact Codec.Reads.map (bytes.pair (bytes.pair (bytes.pair (bytes.pair bytes)))) fun _ => rfl

theorem canonical_bitcoinPayload : BitcoinPayload.codec.Canonical := by
  have bytes := Codec.canonical_bytes
  exact (bytes.pair (bytes.pair (bytes.pair (bytes.pair bytes)))).map fun _ => rfl

/-- A payload can be written if none of its parts is too long. -/
theorem BitcoinPayload.writes_codec {p : BitcoinPayload} :
    codec.Writes p ↔ p.signature.length < UInt32.size ∧ p.head.length < UInt32.size ∧
      p.info.length < UInt32.size ∧ p.publicKey.length < UInt32.size ∧
      p.fromAddress.length < UInt32.size := by
  simp only [codec, Codec.writes_map, Codec.writes_pair, Codec.writes_bytes]

/-! ## Proofs -/

theorem faithful_authenticator : Authenticator.codec.Faithful :=
  Codec.Reads.map (Codec.faithful_word.pair Codec.faithful_bytes) fun _ => rfl

theorem canonical_authenticator : Authenticator.codec.Canonical :=
  (Codec.canonical_word.pair Codec.canonical_bytes).map fun _ => rfl

end MoveWallet.Auth
