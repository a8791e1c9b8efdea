/-
# MoveWallet.Proofs.Curve.Modular — powers taken bit by bit

`pow` runs over the bits of the exponent, so what has been read of them is the exponent of the power
reached (`foldl_pow`), and the whole run gives the power (`pow_modEq`).
-/
import Mathlib.Data.Nat.ModEq
import Mathlib.Tactic.Ring
import MoveWallet.Curve.Modular

namespace MoveWallet.Curve.Modular

set_option autoImplicit false

/-- A step squares the power, and multiplies by the base where the bit is set. -/
theorem step_modEq (m base acc : Nat) (bit : Bool) :
    (if bit then acc * acc % m * base % m else acc * acc % m) ≡
      acc ^ 2 * base ^ bit.toNat [MOD m] := by
  cases bit with
  | false =>
    rw [if_neg Bool.false_ne_true, Bool.toNat_false, Nat.pow_zero, Nat.mul_one, Nat.pow_two]
    exact Nat.mod_modEq _ _
  | true =>
    rw [if_pos rfl, Bool.toNat_true, Nat.pow_one, Nat.pow_two]
    exact (Nat.mod_modEq _ _).trans ((Nat.mod_modEq _ _).mul_right base)

/-- Bits that are still to be read go below those that were read. -/
theorem foldl_pow (m base exponent width acc : Nat) :
    (bits width exponent).foldl
      (fun acc bit => if bit then acc * acc % m * base % m else acc * acc % m) acc ≡
        acc ^ 2 ^ width * base ^ (exponent % 2 ^ width) [MOD m] := by
  induction width generalizing acc with
  | zero => simp [bits, Nat.mod_one, Nat.ModEq.refl]
  | succ width ih =>
    have split : exponent % 2 ^ (width + 1) =
        2 ^ width * (exponent.testBit width).toNat + exponent % 2 ^ width := by
      rw [Nat.mod_pow_succ, Nat.toNat_testBit, Nat.add_comm]
    have whole : acc ^ 2 ^ (width + 1) * base ^ (exponent % 2 ^ (width + 1)) =
        (acc ^ 2 * base ^ (exponent.testBit width).toNat) ^ 2 ^ width *
          base ^ (exponent % 2 ^ width) := by
      rw [split]
      ring
    rw [bits, List.foldl_cons, whole]
    exact (ih _).trans (((step_modEq m base acc _).pow _).mul_right _)

theorem foldl_pow_one {m base exponent width : Nat} (h : exponent < 2 ^ width) :
    (bits width exponent).foldl
      (fun acc bit => if bit then acc * acc % m * base % m else acc * acc % m) (1 % m) ≡
        base ^ exponent [MOD m] := by
  have run := foldl_pow m base exponent width (1 % m)
  have start : (1 % m) ^ 2 ^ width ≡ 1 [MOD m] := by
    simpa using (Nat.mod_modEq 1 m).pow (2 ^ width)
  rw [Nat.mod_eq_of_lt h] at run
  simpa using run.trans (start.mul_right (base ^ exponent))

theorem pow_modEq {m base exponent : Nat} (h : exponent < 2 ^ 256) :
    pow m base exponent ≡ base ^ exponent [MOD m] :=
  foldl_pow_one h

end MoveWallet.Curve.Modular
