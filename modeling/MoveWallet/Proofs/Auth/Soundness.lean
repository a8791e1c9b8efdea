/-
# MoveWallet.Proofs.Auth.Soundness — what an accepted proof of authorization shows

A payload is cut into its parts twice: to check the signature, and to find the signer.  Whatever is
cut out of it can be put together again, so a proof that is read at all is the one that shows what
was read from it (`eq_nativeProof_of_parts`, `BitcoinPayload.verify_eq_ok_iff`).

`ProvesNatively` and `ProvesAsMessage` say in terms of the bytes of a payload what a proof by a key
is.  Checking answers a key exactly for the proofs by that key (`provesNatively_iff`,
`provesAsMessage_iff`), and it is this key's owner that the proof names as its signer.
-/
import MoveWallet.Proofs.Auth.Authenticator
import MoveWallet.Proofs.Text.Separator
import MoveWallet.Proofs.Wire.Answer

namespace MoveWallet.Auth

set_option autoImplicit false

open MoveWallet.Bytes.Fixed
open MoveWallet.Curve.Secp256k1 (CurveKey)
open MoveWallet.Text
open MoveWallet.Text.Separator
open MoveWallet.Wire

/-! ## What a proof has to show -/

/-- What a key signs of a frame in a mode. -/
def SignMode.signed : SignMode → List UInt8 → List UInt8
  | .hash, frame => Digest.Sha2.sha256 frame
  | .raw, frame => frame

/-- A native proof by a key: its payload is the flag of the key's scheme, a signature of 64 bytes
and the key, and the key verifies the signature of the message. -/
def Authenticator.ProvesNatively (a : Authenticator) (message : List UInt8) (key : PublicKey) :
    Prop :=
  a.validatorId = 0 ∧ ∃ signature : FixedBytes 64,
    a.payload = key.scheme.flag :: (signature.toList ++ key.bytes) ∧
    key.verify message ⟨key.scheme, signature⟩ = true

/-- A Bitcoin proof by a key of the second scheme: its payload is the form of five byte strings.
Head, info and the hash in hex make up a frame, whose head tells the length of what follows it and
whose info is the text of a transaction.  The key verifies the signature of the frame and owns the
address. -/
def Authenticator.ProvesAsMessage (a : Authenticator) (hash : List UInt8) (mode : SignMode)
    (key : PublicKey) : Prop :=
  a.validatorId = 1 ∧ key.scheme = .secp256k1 ∧
    ∃ (p : BitcoinPayload) (info text : String) (signature : FixedBytes 64)
      (address : Bitcoin.Address),
      BitcoinPayload.codec.encode p = .ok a.payload ∧
      p.publicKey = key.bytes ∧
      p.info = Utf8.bytes info ∧ infoPrefix.toList <+: info.toList ∧
      p.head = Utf8.bytes framePrefix ++
        Bitcoin.CompactSize.write (p.info.length + 2 * hash.length) ∧
      p.signature = signature.toList ∧
      key.verify (mode.signed (p.head ++ p.info ++ Utf8.bytes (Hex.encode hash)))
        ⟨.secp256k1, signature⟩ = true ∧
      p.fromAddress = Utf8.bytes text ∧
      Bitcoin.Address.parse text Bitcoin.Network.standard = .ok address ∧
      address.account = key.account

/-! ## Native proofs -/

namespace Authenticator

@[simp] theorem expect_eq_ok {a : Authenticator} {v : Validator} :
    a.expect v = .ok () ↔ a.validatorId = v.id := by
  unfold Authenticator.expect
  by_cases same : a.validatorId = v.id
  · simp [same]
  · simp [same]

/-- A proof that splits into a signature and a key is the native proof that shows them. -/
theorem eq_nativeProof_of_parts {a : Authenticator} {signature : Signature} {key : PublicKey}
    (h : a.nativeParts = .ok (signature, key)) :
    a = nativeProof signature key ∧ signature.scheme = key.scheme := by
  unfold Authenticator.nativeParts at h
  obtain ⟨⟨⟩, expected, h⟩ := bind_eq_ok.mp h
  have id := expect_eq_ok.mp expected
  split at h
  · cases h
  · rename_i flag rest shape
    obtain ⟨scheme, flagged, h⟩ := bind_eq_ok.mp h
    split at h
    · cases h
    · obtain ⟨signature', first, h⟩ := bind_eq_ok.mp h
      obtain ⟨key', second, made⟩ := bind_eq_ok.mp h
      cases made
      obtain ⟨sameScheme, front⟩ := Signature.ofBytes_eq_ok first
      obtain ⟨keyScheme, back⟩ := PublicKey.ofBytes_eq_ok second
      refine ⟨?_, sameScheme.trans keyScheme.symm⟩
      have whole : signature.bytes.toList ++ key.bytes = rest := by
        rw [front, back, List.take_append_drop]
      have byte : key.scheme.flag = flag := by
        rw [keyScheme]
        exact Scheme.flag_of_ofFlag flagged
      cases a
      simp_all [nativeProof]

/-- Native proofs are accepted for exactly one key: the one that they show, if it verifies the
signature that they show. -/
theorem verifyNative_eq_ok_iff {a : Authenticator} {message : List UInt8} {key : PublicKey} :
    a.verifyNative message = .ok key ↔
      ∃ signature, signature.scheme = key.scheme ∧ a = nativeProof signature key ∧
        key.verify message signature = true := by
  constructor
  · intro h
    unfold verifyNative at h
    obtain ⟨⟨signature, key'⟩, parts, h⟩ := bind_eq_ok.mp h
    obtain ⟨shown, same⟩ := eq_nativeProof_of_parts parts
    by_cases verified : key'.verify message signature = true
    · simp only [verified, if_true] at h
      cases h
      exact ⟨signature, same, shown, verified⟩
    · simp only [verified] at h
      cases h
  · rintro ⟨signature, same, rfl, verified⟩
    exact verifyNative_nativeProof same verified

theorem provesNatively_iff {a : Authenticator} {message : List UInt8} {key : PublicKey} :
    a.ProvesNatively message key ↔ a.verifyNative message = .ok key := by
  rw [verifyNative_eq_ok_iff]
  constructor
  · rintro ⟨id, signature, payload, verified⟩
    refine ⟨⟨key.scheme, signature⟩, rfl, ?_, verified⟩
    cases a
    simp_all [nativeProof, Validator.id]
  · rintro ⟨signature, same, rfl, verified⟩
    refine ⟨rfl, signature.bytes, rfl, ?_⟩
    rw [← same]
    exact verified

end Authenticator

/-! ## Bitcoin proofs -/

namespace BitcoinPayload

variable {p : BitcoinPayload} {hash : List UInt8} {mode : SignMode}

theorem message_eq_ok_iff {m : SignedMessage} :
    p.message hash = .ok m ↔
      p.info = Utf8.bytes m.info ∧ hasInfoPrefix m.info = true ∧ m.hash = hash := by
  unfold message
  constructor
  · intro h
    split at h
    · cases h
    · rename_i info decoded
      by_cases marked : hasInfoPrefix info = true
      · rw [if_pos marked] at h
        cases h
        exact ⟨(Utf8.bytes_of_decode decoded).symm, marked, rfl⟩
      · rw [if_neg marked] at h
        cases h
  · rintro ⟨info, marked, rfl⟩
    rw [info, Utf8.decode_bytes]
    exact if_pos marked

theorem fromAddressText_eq_ok_iff {text : String} :
    p.fromAddressText = .ok text ↔ p.fromAddress = Utf8.bytes text := by
  unfold fromAddressText
  constructor
  · intro h
    split at h
    · rename_i found decoded
      cases h
      exact (Utf8.bytes_of_decode decoded).symm
    · cases h
  · intro bytes
    rw [bytes, Utf8.decode_bytes]

/-- A payload is accepted exactly if it frames the hash, its key verifies the signature of the
frame, and the address that it shows belongs to the key. -/
theorem verify_eq_ok_iff {key : PublicKey} :
    p.verify hash mode = .ok key ↔
      ∃ m signature k text address, key = .secp256k1 k ∧ p = framed m signature k text ∧
        m.hash = hash ∧ hasInfoPrefix m.info = true ∧ signature.scheme = .secp256k1 ∧
        key.verify (m.signingBytes mode) signature = true ∧
        Bitcoin.Address.parse text Bitcoin.Network.standard = .ok address ∧
        address.account = key.account := by
  constructor
  · intro h
    unfold verify at h
    obtain ⟨m, framing, h⟩ := bind_eq_ok.mp h
    obtain ⟨info, marked, hashed⟩ := message_eq_ok_iff.mp framing
    split at h
    · cases h
    · rename_i head
      obtain ⟨key', readKey, h⟩ := bind_eq_ok.mp h
      obtain ⟨signature, readSignature, h⟩ := bind_eq_ok.mp h
      split at h
      · cases h
      · rename_i verified
        obtain ⟨text, shown, h⟩ := bind_eq_ok.mp h
        split at h
        · cases h
        · rename_i address parsed
          split at h
          · rename_i owned
            cases h
            obtain ⟨keyScheme, keyBytes⟩ := PublicKey.ofBytes_eq_ok readKey
            obtain ⟨scheme, bytes⟩ := Signature.ofBytes_eq_ok readSignature
            cases key with
            | ed25519 bs => cases keyScheme
            | secp256k1 k =>
              refine ⟨m, signature, k, text, address, rfl, ?_, hashed, marked, scheme,
                Bool.not_eq_false _ ▸ verified, parsed, owned⟩
              have text := fromAddressText_eq_ok_iff.mp shown
              have head := not_not.mp head
              cases p
              simp_all [framed, PublicKey.bytes]
          · cases h
  · rintro ⟨m, signature, k, text, address, rfl, rfl, rfl, marked, scheme, verified, parsed, owned⟩
    exact verify_framed marked scheme verified ⟨address, parsed, owned⟩

end BitcoinPayload

theorem hasInfoPrefix_iff {info : String} :
    hasInfoPrefix info = true ↔ infoPrefix.toList <+: info.toList := isSome_dropPrefix?

namespace SignedMessage

theorem frame_eq (m : SignedMessage) :
    m.frame = m.head ++ Utf8.bytes m.info ++ Utf8.bytes (Hex.encode m.hash) := by
  rw [frame, body, Hex.encode, Utf8.bytes, Utf8.bytes, String.toList_ofList, List.append_assoc]

theorem signingBytes_eq (m : SignedMessage) (mode : SignMode) :
    m.signingBytes mode = mode.signed m.frame := by
  cases mode <;> rfl

end SignedMessage

namespace Authenticator

theorem bitcoinPayload_eq_ok {a : Authenticator} {p : BitcoinPayload} :
    a.bitcoinPayload = .ok p ↔
      a.validatorId = 1 ∧ BitcoinPayload.codec.encode p = .ok a.payload := by
  unfold bitcoinPayload
  constructor
  · intro h
    obtain ⟨⟨⟩, expected, h⟩ := bind_eq_ok.mp h
    split at h
    · rename_i found read
      cases h
      exact ⟨expect_eq_ok.mp expected, canonical_bitcoinPayload.encode_of_exact read⟩
    · cases h
  · rintro ⟨id, written⟩
    have expected : a.expect .bitcoin = .ok () := expect_eq_ok.mpr id
    rw [expected, ok_bind, faithful_bitcoinPayload.decodeExact written rfl]
    rfl

theorem provesAsMessage_iff {a : Authenticator} {hash : List UInt8} {mode : SignMode}
    {key : PublicKey} :
    a.ProvesAsMessage hash mode key ↔
      ∃ p, a.bitcoinPayload = .ok p ∧ p.verify hash mode = .ok key := by
  constructor
  · rintro ⟨id, scheme, p, info, text, signature, address, written, shown, asText, marked, head,
      bytes, verified, fromAddress, parsed, owned⟩
    refine ⟨p, bitcoinPayload_eq_ok.mpr ⟨id, written⟩, BitcoinPayload.verify_eq_ok_iff.mpr ?_⟩
    cases key with
    | ed25519 bs => cases scheme
    | secp256k1 k =>
      refine ⟨⟨info, hash⟩, ⟨.secp256k1, signature⟩, k, text, address, rfl, ?_, rfl,
        hasInfoPrefix_iff.mpr marked, rfl, ?_, parsed, owned⟩
      · cases p
        simp_all [BitcoinPayload.framed, PublicKey.bytes, SignedMessage.head, Utf8.byteLength]
      · rw [SignedMessage.signingBytes_eq, SignedMessage.frame_eq]
        rw [head, asText] at verified
        exact verified
  · rintro ⟨p, payload, checked⟩
    obtain ⟨id, written⟩ := bitcoinPayload_eq_ok.mp payload
    obtain ⟨m, ⟨scheme, signature⟩, k, text, address, rfl, rfl, rfl, marked, rfl, verified, parsed,
      owned⟩ := BitcoinPayload.verify_eq_ok_iff.mp checked
    rw [SignedMessage.signingBytes_eq, SignedMessage.frame_eq] at verified
    exact ⟨id, rfl, _, m.info, text, signature, address, written, rfl, rfl,
      hasInfoPrefix_iff.mp marked, rfl, rfl, verified, rfl, parsed, owned⟩

/-! ## Validator and signer -/

theorem validator_eq_native {a : Authenticator} : a.validator = .ok .native ↔ a.validatorId = 0 := by
  unfold Authenticator.validator Validator.ofId
  split_ifs with zero one <;> simp_all

theorem validator_eq_bitcoin {a : Authenticator} :
    a.validator = .ok .bitcoin ↔ a.validatorId = 1 := by
  unfold Authenticator.validator Validator.ofId
  split_ifs with zero one <;> simp_all

/-- The signer of a native proof is the owner of the key that checking it answers. -/
theorem signer_of_verifyNative {a : Authenticator} {message : List UInt8} {key : PublicKey}
    (h : a.verifyNative message = .ok key) : a.signer = .ok key.account := by
  obtain ⟨signature, same, rfl, verified⟩ := verifyNative_eq_ok_iff.mp h
  exact signer_nativeProof same verified

/-- The signer of a Bitcoin proof is the owner of the key that checking its payload answers. -/
theorem signer_of_verify {a : Authenticator} {p : BitcoinPayload} {hash : List UInt8}
    {mode : SignMode} {key : PublicKey} (payload : a.bitcoinPayload = .ok p)
    (h : p.verify hash mode = .ok key) : a.signer = .ok key.account := by
  obtain ⟨m, signature, k, text, address, rfl, rfl, -⟩ := BitcoinPayload.verify_eq_ok_iff.mp h
  exact signer_bitcoin (bitcoinPayload_eq_ok.mp payload).1 payload rfl

end Authenticator

end MoveWallet.Auth
