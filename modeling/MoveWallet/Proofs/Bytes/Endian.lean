/-
# MoveWallet.Proofs.Bytes.Endian — numbers and their bytes determine each other

* `ofLittleEndian_littleEndian` and `ofBigEndian_bigEndian` read a number back below `256 ^ w`.
* `littleEndian_ofLittleEndian` and `bigEndian_ofBigEndian` write bytes back at their own length.
* `ofLittleEndian_lt` bounds a reading by the number of bytes.
* `chunks_flatMap` cuts pieces of one size out of what they make together.
-/
import Mathlib.Algebra.Group.Nat.Defs
import Mathlib.Data.List.Induction
import MoveWallet.Bytes.Endian

namespace MoveWallet.Bytes.Endian

set_option autoImplicit false

/-! ## Least significant byte first -/

theorem ofLittleEndian_lt (bs : List UInt8) : ofLittleEndian bs < 256 ^ bs.length := by
  induction bs with
  | nil => exact Nat.one_pos
  | cons b bs ih =>
    have low : b.toNat < 256 := b.toNat_lt
    rw [ofLittleEndian, List.length_cons, Nat.pow_succ]
    omega

/-- The low `w` bytes of a number are read as its remainder. -/
theorem ofLittleEndian_littleEndian_mod (w n : Nat) :
    ofLittleEndian (littleEndian w n) = n % 256 ^ w := by
  induction w generalizing n with
  | zero => simp [littleEndian, ofLittleEndian, Nat.mod_one]
  | succ w ih =>
    rw [littleEndian, ofLittleEndian, ih, Nat.pow_succ', Nat.mod_mul, UInt8.toNat_ofNat']
    simp

theorem ofLittleEndian_littleEndian {w n : Nat} (h : n < 256 ^ w) :
    ofLittleEndian (littleEndian w n) = n := by
  rw [ofLittleEndian_littleEndian_mod, Nat.mod_eq_of_lt h]

theorem littleEndian_ofLittleEndian (bs : List UInt8) :
    littleEndian bs.length (ofLittleEndian bs) = bs := by
  induction bs with
  | nil => rfl
  | cons b bs ih =>
    have low : b.toNat < 256 := b.toNat_lt
    have digit : (b.toNat + 256 * ofLittleEndian bs) % 256 = b.toNat := by omega
    have others : (b.toNat + 256 * ofLittleEndian bs) / 256 = ofLittleEndian bs := by omega
    rw [List.length_cons, littleEndian, ofLittleEndian, digit, others, ih, UInt8.ofNat_toNat]

/-! ## Most significant byte first -/

theorem ofBigEndian_append_single (bs : List UInt8) (b : UInt8) :
    ofBigEndian (bs ++ [b]) = ofBigEndian bs * 256 + b.toNat := by
  rw [ofBigEndian, List.foldl_append]
  rfl

theorem ofBigEndian_lt (bs : List UInt8) : ofBigEndian bs < 256 ^ bs.length := by
  induction bs using List.reverseRecOn with
  | nil => exact Nat.one_pos
  | append_singleton bs b ih =>
    have low : b.toNat < 256 := b.toNat_lt
    rw [ofBigEndian_append_single, List.length_append, List.length_singleton, Nat.pow_succ]
    omega

theorem ofBigEndian_bigEndian {w n : Nat} (h : n < 256 ^ w) :
    ofBigEndian (bigEndian w n) = n := by
  induction w generalizing n with
  | zero =>
    rw [Nat.pow_zero] at h
    rw [bigEndian, ofBigEndian, List.foldl_nil]
    omega
  | succ w ih =>
    rw [Nat.pow_succ] at h
    rw [bigEndian, ofBigEndian_append_single, ih (by omega), UInt8.toNat_ofNat']
    omega

/-- Bytes are written back at their own length. -/
theorem bigEndian_ofBigEndian (bs : List UInt8) : bigEndian bs.length (ofBigEndian bs) = bs := by
  -- the last byte is the least significant, so the induction is from the end
  induction bs using List.reverseRecOn with
  | nil => rfl
  | append_singleton bs b ih =>
    have low : b.toNat < 256 := b.toNat_lt
    have digit : (ofBigEndian bs * 256 + b.toNat) % 256 = b.toNat := by omega
    have others : (ofBigEndian bs * 256 + b.toNat) / 256 = ofBigEndian bs := by omega
    rw [ofBigEndian_append_single, List.length_append, List.length_singleton, bigEndian, digit,
      others, ih, UInt8.ofNat_toNat]

/-! ## Blocks -/

variable {α : Type} {f : α → List UInt8} {size : Nat} {as : List α}

theorem length_flatMap_of_size (sizes : ∀ a ∈ as, (f a).length = size) :
    (as.flatMap f).length = size * as.length := by
  induction as with
  | nil => rfl
  | cons a as ih =>
    rw [List.forall_mem_cons] at sizes
    rw [List.flatMap_cons, List.length_append, sizes.1, ih sizes.2, List.length_cons, Nat.mul_succ,
      Nat.add_comm]

/-- Pieces of one size are the blocks of what they make together. -/
theorem chunks_flatMap (positive : 0 < size) (sizes : ∀ a ∈ as, (f a).length = size) :
    chunks size (as.flatMap f) = as.map f := by
  rw [chunks, length_flatMap_of_size sizes, Nat.mul_div_cancel_left _ positive]
  induction as with
  | nil => rfl
  | cons a as ih =>
    rw [List.forall_mem_cons] at sizes
    rw [List.flatMap_cons, List.length_cons, blocks, List.take_left' sizes.1,
      List.drop_left' sizes.1, ih sizes.2]
    rfl

end MoveWallet.Bytes.Endian
