/-
# MoveWallet.Proofs.Auth.Authenticator — proofs that are made are accepted

A proof is made of a signature and a key.  If the key verifies the signature, reading the proof
gives both back and checking it succeeds: `verifyNative_nativeProof` for the native layout,
`BitcoinPayload.verify_framed` for a Bitcoin message in the mode that it was signed in.  The key
that signs enters only through that assumption.
-/
import MoveWallet.Proofs.Auth.Key
import MoveWallet.Proofs.Auth.Wire
import MoveWallet.Proofs.Bitcoin.Taproot

namespace MoveWallet.Auth

set_option autoImplicit false

open MoveWallet.Bytes.Fixed
open MoveWallet.Curve.Secp256k1 (CurveKey)
open MoveWallet.Text

/-! ## Native proofs -/

namespace Authenticator

/-- The native proof that shows a signature and a key. -/
def nativeProof (signature : Signature) (key : PublicKey) : Authenticator :=
  ⟨Validator.native.id, key.scheme.flag :: (signature.bytes.toList ++ key.bytes)⟩

theorem nativeParts_nativeProof {signature : Signature} {key : PublicKey}
    (same : signature.scheme = key.scheme)
    (readable : PublicKey.ofBytes key.scheme key.bytes = .ok key) :
    (nativeProof signature key).nativeParts = .ok (signature, key) := by
  have size : signature.bytes.toList.length = signatureLength := signature.bytes.length_toList
  have first : (signature.bytes.toList ++ key.bytes).take signatureLength =
      signature.bytes.toList := List.take_left' size
  have second : (signature.bytes.toList ++ key.bytes).drop signatureLength = key.bytes :=
    List.drop_left' size
  have length : (signature.bytes.toList ++ key.bytes).length =
      signatureLength + key.scheme.publicKeyLength := by
    rw [List.length_append, size, PublicKey.length_bytes]
  have read : Signature.ofBytes key.scheme signature.bytes.toList = .ok signature := by
    rw [← same]
    exact Signature.ofBytes_bytes signature
  have expected : (nativeProof signature key).expect .native = .ok () := if_pos rfl
  rw [nativeParts, expected]
  simp [nativeProof, first, second, length, read, readable]

/-- A native proof is accepted by the key that it shows, if that verifies the signature. -/
theorem verifyNative_nativeProof {message : List UInt8} {signature : Signature} {key : PublicKey}
    (same : signature.scheme = key.scheme) (accepted : key.verify message signature = true) :
    (nativeProof signature key).verifyNative message = .ok key := by
  have parts := nativeParts_nativeProof same (PublicKey.ofBytes_bytes_of_verify accepted)
  rw [verifyNative, parts]
  exact if_pos accepted

/-- The signer of a native proof is the owner of the key that it shows. -/
theorem signer_nativeProof {message : List UInt8} {signature : Signature} {key : PublicKey}
    (same : signature.scheme = key.scheme) (accepted : key.verify message signature = true) :
    (nativeProof signature key).signer = .ok key.account := by
  have parts := nativeParts_nativeProof same (PublicKey.ofBytes_bytes_of_verify accepted)
  have validator : (nativeProof signature key).validator = .ok .native := rfl
  rw [signer, validator]
  simp [parts]

end Authenticator

/-! ## Bitcoin proofs -/

namespace BitcoinPayload

variable {m : SignedMessage} {signature : Signature} {key : CurveKey} {address : String}

@[simp] theorem signature_framed :
    (framed m signature key address).signature = signature.bytes.toList := rfl

@[simp] theorem head_framed : (framed m signature key address).head = m.head := rfl

@[simp] theorem publicKey_framed :
    (framed m signature key address).publicKey = key.compressed.toList := rfl

@[simp] theorem fromAddressText_framed :
    (framed m signature key address).fromAddressText = .ok address := by
  simp [fromAddressText, framed]

theorem message_framed (marked : hasInfoPrefix m.info = true) :
    (framed m signature key address).message m.hash = .ok m := by
  simp [message, framed, marked]

/-- A payload is accepted for the hash that it frames if its key verifies the signature and owns the
address. -/
theorem verify_framed {mode : SignMode} (marked : hasInfoPrefix m.info = true)
    (same : signature.scheme = .secp256k1)
    (accepted : (PublicKey.secp256k1 key).verify (m.signingBytes mode) signature = true)
    (owned : ∃ a, Bitcoin.Address.parse address Bitcoin.Network.standard = .ok a ∧
      a.account = (PublicKey.secp256k1 key).account) :
    (framed m signature key address).verify m.hash mode = .ok (.secp256k1 key) := by
  obtain ⟨a, parsed, account⟩ := owned
  have read : Signature.ofBytes .secp256k1 signature.bytes.toList = .ok signature := by
    rw [← same]
    exact Signature.ofBytes_bytes signature
  rw [verify, message_framed marked]
  simp [read, accepted, parsed, account]

end BitcoinPayload

namespace Authenticator

theorem ofPayload_eq_ok {p : BitcoinPayload} {a : Authenticator} (h : ofPayload p = .ok a) :
    a.validatorId = Validator.bitcoin.id ∧ a.bitcoinPayload = .ok p := by
  unfold ofPayload at h
  rcases written : BitcoinPayload.codec.encode p with e | bs
  · rw [written] at h
    cases h
  · rw [written] at h
    cases h
    have read := faithful_bitcoinPayload.decodeExact written rfl
    have expected : (Authenticator.mk Validator.bitcoin.id bs).expect .bitcoin = .ok () :=
      if_pos rfl
    refine ⟨rfl, ?_⟩
    rw [bitcoinPayload, expected]
    simp [read]

/-- A Bitcoin proof holds the payload that shows the signature of the framed hash. -/
theorem bitcoin_eq_ok {m : SignedMessage} {secret : SecretNumber} {mode : SignMode}
    {network : Bitcoin.Network} {a : Authenticator} (h : bitcoin m secret mode network = .ok a) :
    hasInfoPrefix m.info = true ∧
      ofPayload (.framed m (secret.sign (m.signingBytes mode)) secret.publicKey
        (secret.bitcoinAddress network).text) = .ok a := by
  unfold bitcoin at h
  by_cases marked : hasInfoPrefix m.info = true
  · rw [if_pos marked] at h
    exact ⟨marked, h⟩
  · rw [if_neg marked] at h
    cases h

/-- The signer of a Bitcoin proof is the owner of the key that it shows. -/
theorem signer_bitcoin {a : Authenticator} {p : BitcoinPayload} {key : CurveKey}
    (id : a.validatorId = Validator.bitcoin.id) (payload : a.bitcoinPayload = .ok p)
    (shown : p.publicKey = key.compressed.toList) :
    a.signer = .ok (PublicKey.secp256k1 key).account := by
  have validator : a.validator = .ok .bitcoin := by
    rw [Authenticator.validator, id]
    rfl
  rw [signer, validator]
  simp [payload, shown]

end Authenticator

end MoveWallet.Auth
