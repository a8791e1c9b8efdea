/-
# MoveWallet.Proofs.Auth.Key — keys and signatures are read back from their bytes

Reading a key of the first scheme asks whether it is a point, which holds as soon as the key verifies
any signature.  In both schemes the bytes that a key is read from are those that it is written as
(`PublicKey.ofBytes_eq_ok`), so a key that was taken out of a longer byte string can be found there
again.  The same holds of the 32 bytes of a secret number (`SecretNumber.ofBytes?_eq_some_iff`).
-/
import MoveWallet.Auth.Keypair
import MoveWallet.Proofs.Curve.Key

namespace MoveWallet.Curve.Ed25519

set_option autoImplicit false

/-- A key that verifies a signature is a point. -/
theorem isSome_of_verify {key : Bytes.Fixed.FixedBytes 32} {message : List UInt8}
    {signature : Bytes.Fixed.FixedBytes 64} (h : verify key message signature = true) :
    (Point.decompress? key).isSome = true := by
  unfold verify at h
  exact Option.isSome_of_any h

end MoveWallet.Curve.Ed25519

namespace MoveWallet.Auth

set_option autoImplicit false

open MoveWallet.Bytes.Endian
open MoveWallet.Bytes.Fixed
open MoveWallet.Curve
open MoveWallet.Curve.Secp256k1 (CurveKey)

/-! ## Keys and signatures of either scheme -/

@[simp] theorem Scheme.ofFlag_flag (s : Scheme) : Scheme.ofFlag s.flag = .ok s := by
  cases s <;> rfl

@[simp] theorem Signature.ofBytes_bytes (s : Signature) :
    Signature.ofBytes s.scheme s.bytes.toList = .ok s := by
  unfold Signature.ofBytes
  rw [FixedBytes.ofList?_toList]

theorem Scheme.flag_of_ofFlag {flag : UInt8} {s : Scheme} (h : Scheme.ofFlag flag = .ok s) :
    s.flag = flag := by
  unfold Scheme.ofFlag at h
  split at h
  · rename_i zero
    cases h
    exact zero.symm
  · split at h
    · rename_i one
      cases h
      exact one.symm
    · cases h

theorem Signature.ofBytes_eq_ok {s : Scheme} {bs : List UInt8} {signature : Signature}
    (h : Signature.ofBytes s bs = .ok signature) :
    signature.scheme = s ∧ signature.bytes.toList = bs := by
  unfold Signature.ofBytes at h
  split at h
  · rename_i b found
    cases h
    exact ⟨rfl, (FixedBytes.ofList?_eq_some_iff.mp found).symm⟩
  · cases h

namespace PublicKey

@[simp] theorem length_bytes (key : PublicKey) : key.bytes.length = key.scheme.publicKeyLength := by
  cases key with
  | ed25519 bs => exact bs.length_toList
  | secp256k1 k => exact k.compressed.length_toList

@[simp] theorem ofBytes_compressed (k : CurveKey) :
    PublicKey.ofBytes .secp256k1 k.compressed.toList = .ok (.secp256k1 k) := by
  have length : k.compressed.toList.length = Scheme.secp256k1.publicKeyLength :=
    k.compressed.length_toList
  simp only [PublicKey.ofBytes, length, ne_eq, not_true_eq_false, if_false,
    Secp256k1.ofCompressed?_compressed]

/-- A key that verifies a signature is read back from its bytes. -/
theorem ofBytes_bytes_of_verify {key : PublicKey} {message : List UInt8} {signature : Signature}
    (h : key.verify message signature = true) :
    PublicKey.ofBytes key.scheme key.bytes = .ok key := by
  cases key with
  | secp256k1 k => exact ofBytes_compressed k
  | ed25519 bs =>
    have verified : Ed25519.verify bs message signature.bytes = true :=
      (Bool.and_eq_true_iff.mp h).2
    have point := Ed25519.isSome_of_verify verified
    show PublicKey.ofBytes .ed25519 bs.toList = _
    unfold PublicKey.ofBytes
    rw [FixedBytes.ofList?_toList]
    exact if_pos point

/-- A key is of the scheme that it was read for, and is written as the bytes that it was read
from. -/
theorem ofBytes_eq_ok {s : Scheme} {bs : List UInt8} {key : PublicKey}
    (h : PublicKey.ofBytes s bs = .ok key) : key.scheme = s ∧ key.bytes = bs := by
  cases s with
  | ed25519 =>
    simp only [PublicKey.ofBytes] at h
    split at h
    · cases h
    · rename_i b found
      split at h
      · cases h
        exact ⟨rfl, (FixedBytes.ofList?_eq_some_iff.mp found).symm⟩
      · cases h
  | secp256k1 =>
    simp only [PublicKey.ofBytes] at h
    split at h
    · cases h
    · split at h
      · rename_i k found
        cases h
        exact ⟨rfl, Secp256k1.compressed_of_ofCompressed? found⟩
      · cases h

end PublicKey

namespace Keypair

end Keypair

/-! ## Secrets -/

/-- A secret number is read from its 32 bytes and from no others. -/
theorem SecretNumber.ofBytes?_eq_some_iff {bs : List UInt8} {s : SecretNumber}
    (size : bs.length = 32) : SecretNumber.ofBytes? bs = some s ↔ s.bytes.toList = bs := by
  constructor
  · intro h
    obtain ⟨valid, made⟩ := Option.dite_none_right_eq_some.mp h
    cases made
    have written := bigEndian_ofBigEndian bs
    rw [size] at written
    exact written
  · intro h
    have range : s.value < 256 ^ 32 := Nat.lt_trans s.below (by decide)
    have number : ofBigEndian bs = s.value := by
      rw [← h]
      exact ofBigEndian_bigEndian range
    have valid : 0 < ofBigEndian bs ∧ ofBigEndian bs < Secp256k1.order := by
      rw [number]
      exact ⟨s.positive, s.below⟩
    rw [SecretNumber.ofBytes?, dif_pos valid]
    cases s
    simp only [Option.some.injEq, SecretNumber.mk.injEq]
    exact number

end MoveWallet.Auth
