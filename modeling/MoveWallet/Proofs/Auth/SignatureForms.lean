/-
# MoveWallet.Proofs.Auth.SignatureForms — a signature verifies in both of its forms or in neither

If `(r, s)` is a signature then so is `(r, n - s)`, with `n` the order of the curve.  A verifier
brings what it is given to the form with the lower `s` before it looks at the equation.  This takes
three steps (`verify_ofBytes`): numbers that are not below the order are refused, `s` is lowered, and
then zeros are refused and the equation decides.  The first step refuses both forms or neither, and
the second leaves one signature of the two (`normalized_sub`), which is all that the third sees.
-/
import MoveWallet.Auth.PublicKey
import MoveWallet.Proofs.Bytes.Endian

namespace MoveWallet

set_option autoImplicit false

open MoveWallet.Bytes.Endian
open MoveWallet.Bytes.Fixed
open MoveWallet.Curve.Secp256k1

namespace Curve.Ecdsa

variable {s : Nat} {sig : Signature}

/-! ## The lower form -/

theorem order_odd : order % 2 = 1 := by decide

/-- The two forms have one lower form, also round the middle of the range. -/
theorem lowS_sub (positive : 0 < s) (small : s < order) : lowS (order - s) = lowS s := by
  have odd := order_odd
  unfold lowS
  split <;> split <;> omega

theorem lowS_le (small : s < order) : lowS s ≤ order / 2 := by
  unfold lowS
  split <;> omega

theorem lowS_pos_iff (small : s < order) : 0 < lowS s ↔ 0 < s := by
  unfold lowS
  split <;> omega

/-! ## Verifying step by step -/

namespace Signature

/-- The pair in 64 bytes, if both numbers are below the order.  Zeros pass. -/
def ofCompact? (bs : FixedBytes 64) : Option Signature :=
  if (ofBytes bs).r < order && (ofBytes bs).s < order then some (ofBytes bs) else none

/-- The form with the lower `s`. -/
def normalized (sig : Signature) : Signature := ⟨sig.r, lowS sig.s⟩

/-- Both forms of a signature have the same lower one. -/
theorem normalized_sub {r : Nat} (positive : 0 < s) (small : s < order) :
    normalized ⟨r, order - s⟩ = normalized ⟨r, s⟩ := by
  simp only [normalized, lowS_sub positive small]

end Signature

/-- The check of a signature in its lower form: zeros and a high `s` are refused, and the equation
has to hold. -/
def verifyLow (key : CurveKey) (digest : List UInt8) (sig : Signature) : Bool :=
  0 < sig.r && 0 < sig.s && sig.s ≤ order / 2 && satisfies key digest sig.r sig.s

/-- Numbers out of range verify nowhere. -/
theorem verify_of_not_inRange {key : CurveKey} {digest : List UInt8}
    (out : (sig.r = 0 ∨ order ≤ sig.r) ∨ sig.s = 0 ∨ order ≤ sig.s) :
    verify key digest sig = false := by
  have refused : sig.inRange = false := by
    simp only [Signature.inRange, Bool.and_eq_false_iff, decide_eq_false_iff_not]
    omega
  rw [verify, refused, Bool.false_and]

/-- A signature in bytes is read, lowered and checked. -/
theorem verify_ofBytes (key : CurveKey) (digest : List UInt8) (bs : FixedBytes 64) :
    verify key digest (.ofBytes bs) =
      match Signature.ofCompact? bs with
      | some sig => verifyLow key digest sig.normalized
      | none => false := by
  unfold Signature.ofCompact?
  generalize Signature.ofBytes bs = sig
  have lowered : verifyLow key digest sig.normalized = (0 < sig.r && 0 < lowS sig.s &&
      lowS sig.s ≤ order / 2 && satisfies key digest sig.r (lowS sig.s)) := rfl
  by_cases small : sig.r < order ∧ sig.s < order
  · have low := lowS_le small.2
    have positive := lowS_pos_iff small.2
    simp [verify, Signature.inRange, lowered, small, low, positive]
  · have none : ¬ (decide (sig.r < order) && decide (sig.s < order)) = true := by simpa using small
    rw [if_neg none, verify_of_not_inRange (by omega)]

end Curve.Ecdsa

namespace Auth

open MoveWallet.Curve

/-! ## Signatures in bytes -/

namespace Signature

variable {r : FixedBytes 32} {s : Nat}

/-- A signature of the second scheme: 32 bytes and then a number. -/
def ofParts (r : FixedBytes 32) (s : Nat) : Signature :=
  ⟨.secp256k1, ⟨r.toList ++ bigEndian 32 s, by simp [r.length_toList]⟩⟩

theorem ofBytes_ofParts (small : s < 256 ^ 32) :
    Ecdsa.Signature.ofBytes (ofParts r s).bytes = ⟨ofBigEndian r.toList, s⟩ := by
  simp only [ofParts, Ecdsa.Signature.ofBytes, List.take_left' r.length_toList,
    List.drop_left' r.length_toList, ofBigEndian_bigEndian small]

/-- Every signature of the second scheme has these parts. -/
theorem exists_eq_ofParts {sig : Signature} (scheme : sig.scheme = .secp256k1) :
    ∃ r, ∃ s < 256 ^ 32, sig = ofParts r s := by
  obtain ⟨_, bytes⟩ := sig
  cases scheme
  have size : (bytes.toList.drop 32).length = 32 := by simp [bytes.length_toList]
  have small := ofBigEndian_lt (bytes.toList.drop 32)
  have written := bigEndian_ofBigEndian (bytes.toList.drop 32)
  rw [size] at small written
  have first : (bytes.toList.take 32).length = 32 := by simp [bytes.length_toList]
  refine ⟨⟨bytes.toList.take 32, first⟩, _, small, ?_⟩
  have whole : bytes.toList =
      bytes.toList.take 32 ++ bigEndian 32 (ofBigEndian (bytes.toList.drop 32)) := by
    rw [written, List.take_append_drop]
  exact congrArg (mk .secp256k1) (FixedBytes.ext whole)

end Signature

namespace PublicKey

theorem verify_ofParts (key : CurveKey) (message : List UInt8) (r : FixedBytes 32) (s : Nat) :
    (secp256k1 key).verify message (.ofParts r s) =
      Ecdsa.verify key (Digest.Sha2.sha256 message) (.ofBytes (Signature.ofParts r s).bytes) := by
  simp [verify, scheme, Signature.ofParts]

/-- If the second part is below the order, the answer is that of the check of the lower form, once the
first part is below the order too. -/
theorem verify_ofParts_of_lt (key : CurveKey) (message : List UInt8) (r : FixedBytes 32) {s : Nat}
    (small : s < order) :
    (secp256k1 key).verify message (.ofParts r s) = (decide (ofBigEndian r.toList < order) &&
      Ecdsa.verifyLow key (Digest.Sha2.sha256 message)
        (Ecdsa.Signature.normalized ⟨ofBigEndian r.toList, s⟩)) := by
  have fits : order < 256 ^ 32 := by decide
  rw [verify_ofParts, Ecdsa.verify_ofBytes, Ecdsa.Signature.ofCompact?,
    Signature.ofBytes_ofParts (by omega)]
  by_cases below : ofBigEndian r.toList < order
  · simp [below, small]
  · simp [below]

/-- A key takes the two forms of a signature alike: what it answers is whether the lower one is a
signature, and neither is taken if the first part is out of range.  No signature verifies whose second
part is zero or not below the order. -/
theorem verify_forms (key : CurveKey) (message : List UInt8) (r : FixedBytes 32) :
    (∀ s, 0 < s → s < order →
      (secp256k1 key).verify message (.ofParts r s) =
        (secp256k1 key).verify message (.ofParts r (order - s)) ∧
      (secp256k1 key).verify message (.ofParts r s) = (decide (ofBigEndian r.toList < order) &&
        Ecdsa.verifyLow key (Digest.Sha2.sha256 message) ⟨ofBigEndian r.toList, Ecdsa.lowS s⟩)) ∧
    (ofBigEndian r.toList = 0 ∨ order ≤ ofBigEndian r.toList → ∀ s < 256 ^ 32,
      (secp256k1 key).verify message (.ofParts r s) = false) ∧
    (∀ s < 256 ^ 32, s = 0 ∨ order ≤ s →
      (secp256k1 key).verify message (.ofParts r s) = false) ∧
    ∀ sig : Signature, sig.scheme = .secp256k1 → ∃ r', ∃ s < 256 ^ 32, sig = .ofParts r' s := by
  refine ⟨?_, ?_, ?_, fun sig => Signature.exists_eq_ofParts⟩
  · intro s positive small
    have other : order - s < order := Nat.sub_lt (by decide) positive
    refine ⟨?_, verify_ofParts_of_lt key message r small⟩
    rw [verify_ofParts_of_lt key message r small, verify_ofParts_of_lt key message r other,
      Ecdsa.Signature.normalized_sub positive small]
  · intro out s fits
    rw [verify_ofParts, Signature.ofBytes_ofParts fits]
    exact Ecdsa.verify_of_not_inRange (.inl out)
  · intro s fits out
    rw [verify_ofParts, Signature.ofBytes_ofParts fits]
    exact Ecdsa.verify_of_not_inRange (.inr out)

/-- A signature by the secret 1 with the nonce 1, whose first part is the coordinate of the
generator, verifies with the lower `s` because it does with the higher.  It does not with zero, nor
does a signature whose first part is zero. -/
theorem verify_forms_of_generator :
    let r := FixedBytes.bigEndian 32 generatorKey.x
    let s := 75396141808713548657964479147189862982551028472532833404239490883048140156860
    order / 2 < s ∧
    (secp256k1 generatorKey).verify [104, 101, 108, 108, 111] (.ofParts r (order - s)) = true ∧
    (secp256k1 generatorKey).verify [104, 101, 108, 108, 111] (.ofParts r 0) = false ∧
    (secp256k1 generatorKey).verify [104, 101, 108, 108, 111] (.ofParts (.zero 32) s) = false := by
  intro r s
  obtain ⟨forms, -, second, -⟩ := verify_forms generatorKey [104, 101, 108, 108, 111] r
  obtain ⟨-, first, -, -⟩ := verify_forms generatorKey [104, 101, 108, 108, 111] (.zero 32)
  have high : (secp256k1 generatorKey).verify [104, 101, 108, 108, 111] (.ofParts r s) = true := by
    decide +kernel
  refine ⟨by decide, ?_, ?_, ?_⟩
  · rw [← (forms s (by decide) (by decide)).1]
    exact high
  · exact second 0 (by decide) (.inl rfl)
  · exact first (.inl rfl) s (by decide)

end PublicKey

end Auth

end MoveWallet
