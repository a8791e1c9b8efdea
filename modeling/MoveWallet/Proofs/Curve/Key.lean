/-
# MoveWallet.Proofs.Curve.Key — keys of the curve are read back from their compressed form

A key is read back because its coordinate is below the size of the field
(`ofCompressed?_compressed`), and it is written as the bytes that it was read from
(`compressed_of_ofCompressed?`): a byte for the parity and 32 for the coordinate.
-/
import MoveWallet.Curve.Secp256k1
import MoveWallet.Proofs.Bytes.Endian

namespace MoveWallet.Curve.Secp256k1

set_option autoImplicit false

open MoveWallet.Bytes.Endian

theorem lt_of_lift? {x y : Nat} {odd : Bool} (h : lift? x odd = some y) : x < fieldSize := by
  unfold lift? at h
  split at h
  · assumption
  · cases h

theorem ofCoordinate?_of_lift? {x y : Nat} {odd : Bool} (h : lift? x odd = some y) :
    CurveKey.ofCoordinate? x odd = some ⟨x, odd, y, h⟩ := by
  unfold CurveKey.ofCoordinate?
  split
  · rename_i found lifted
    rw [h] at lifted
    cases lifted
    rfl
  · rename_i missing
    rw [h] at missing
    cases missing

/-- A key is read back from its compressed form. -/
theorem ofCompressed?_compressed (k : CurveKey) :
    CurveKey.ofCompressed? k.compressed.toList = some k := by
  have range : k.x < 256 ^ 32 := Nat.lt_trans (lt_of_lift? k.lifted) (by decide)
  have number : ofBigEndian (bigEndian 32 k.x) = k.x := ofBigEndian_bigEndian range
  have parity : ((if k.odd then (3 : UInt8) else 2) == 2 ||
      (if k.odd then (3 : UInt8) else 2) == 3) = true := by
    cases k.odd <;> rfl
  have odd : ((if k.odd then (3 : UInt8) else 2) == 3) = k.odd := by
    cases k.odd <;> rfl
  show CurveKey.ofCompressed? ((if k.odd then 3 else 2) :: bigEndian 32 k.x) = some k
  rw [CurveKey.ofCompressed?, length_bigEndian, parity, odd, number,
    ofCoordinate?_of_lift? k.lifted]
  rfl

theorem coordinate_of_ofCoordinate? {x : Nat} {odd : Bool} {k : CurveKey}
    (h : CurveKey.ofCoordinate? x odd = some k) : k.x = x ∧ k.odd = odd := by
  unfold CurveKey.ofCoordinate? at h
  split at h
  · cases h
    exact ⟨rfl, rfl⟩
  · cases h

/-- What is read as a compressed key is a byte for the parity and 32 bytes for the coordinate. -/
theorem exists_of_ofCompressed? {bs : List UInt8} {k : CurveKey}
    (h : CurveKey.ofCompressed? bs = some k) :
    ∃ xs, xs.length = 32 ∧ bs = (if k.odd then 3 else 2) :: xs ∧
      CurveKey.ofCoordinate? (ofBigEndian xs) k.odd = some k := by
  cases bs with
  | nil => cases h
  | cons parity xs =>
    rw [CurveKey.ofCompressed?] at h
    split at h
    · rename_i form
      obtain ⟨size, byte⟩ := Bool.and_eq_true_iff.mp form
      have odd := (coordinate_of_ofCoordinate? h).2
      rw [odd]
      refine ⟨xs, of_decide_eq_true size, ?_, h⟩
      rcases Bool.or_eq_true_iff.mp byte with two | three
      · rw [eq_of_beq two]
        rfl
      · rw [eq_of_beq three]
        rfl
    · cases h

/-- A key is written as the bytes that it was read from. -/
theorem compressed_of_ofCompressed? {bs : List UInt8} {k : CurveKey}
    (h : CurveKey.ofCompressed? bs = some k) : k.compressed.toList = bs := by
  obtain ⟨xs, size, rfl, found⟩ := exists_of_ofCompressed? h
  have number := bigEndian_ofBigEndian xs
  rw [size, ← (coordinate_of_ofCoordinate? found).1] at number
  exact congrArg ((if k.odd then 3 else 2) :: ·) number

end MoveWallet.Curve.Secp256k1
