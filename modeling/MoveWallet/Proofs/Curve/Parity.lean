/-
# MoveWallet.Proofs.Curve.Parity — a coordinate that has one `y` has the other one too

The two points of a coordinate are each other's negatives, so they differ in parity unless `y = 0`.
No point has `y = 0`: that would make -7 a cube modulo the size of the field.  Then modulo each of
the prime factors of that size there would be an element of order 9 (`modEq_one_of_cube`), so each
factor, and with them the size of the field, would be one more than a multiple of 9, and it is not.
That the size of the field is a prime is not needed.
-/
import Mathlib.FieldTheory.Finite.Basic
import Mathlib.GroupTheory.OrderOfElement
import MoveWallet.Proofs.Curve.Key
import MoveWallet.Proofs.Curve.Modular

namespace MoveWallet.Curve.Secp256k1

set_option autoImplicit false

open MoveWallet.Bytes.Endian
open MoveWallet.Curve.Modular

/-! ## No cube is -7 -/

theorem modEq_one_of_factors {n k : Nat} (nonzero : n ≠ 0)
    (h : ∀ q, q.Prime → q ∣ n → q ≡ 1 [MOD k]) : n ≡ 1 [MOD k] := by
  have factors : ∀ z ∈ n.primeFactorsList.map (fun q : Nat => (q : ZMod k)), z = 1 := by
    intro z member
    obtain ⟨q, factor, rfl⟩ := List.mem_map.mp member
    have one := h q (Nat.prime_of_mem_primeFactorsList factor) (Nat.dvd_of_mem_primeFactorsList factor)
    simpa using (ZMod.natCast_eq_natCast_iff q 1 k).mpr one
  rw [← ZMod.natCast_eq_natCast_iff, ← Nat.prod_primeFactorsList nonzero, Nat.cast_list_prod,
    List.prod_eq_one factors, Nat.cast_one]

/-- What -7 to a third of the order of the multiplicative group comes to. -/
def unityRoot : Nat := 0x7AE96A2B657C07106E64479EAC3434E99CF0497512F58995C1396C28719501EE

theorem pow_unityRoot :
    (fieldSize - 7) ^ ((fieldSize - 1) / 3) ≡ unityRoot [MOD fieldSize] := by
  have run : pow fieldSize (fieldSize - 7) ((fieldSize - 1) / 3) = unityRoot := by decide +kernel
  rw [← run]
  exact (pow_modEq (by decide +kernel)).symm

theorem unityRoot_facts :
    unityRoot ^ 3 ≡ 1 [MOD fieldSize] ∧ Nat.Coprime (unityRoot - 1) fieldSize := by
  decide +kernel

/-- A prime factor of the size of the field, modulo which -7 is a cube, is one more than a multiple
of 9. -/
theorem modEq_one_of_cube {q x : Nat} (prime : q.Prime) (factor : q ∣ fieldSize)
    (cube : q ∣ x ^ 3 + 7) : q ≡ 1 [MOD 9] := by
  have field : Fact q.Prime := ⟨prime⟩
  have cast : ∀ {a b : Nat}, a ≡ b [MOD fieldSize] → (a : ZMod q) = b := fun same =>
    (ZMod.natCast_eq_natCast_iff _ _ q).mpr (same.of_dvd factor)
  obtain ⟨third, coprime⟩ := unityRoot_facts
  have seven : ((fieldSize - 7 : Nat) : ZMod q) = (x : ZMod q) ^ 3 := by
    have whole : ((fieldSize - 7 : Nat) : ZMod q) + 7 = 0 := by
      have sum := (ZMod.natCast_eq_zero_iff (fieldSize - 7 + 7) q).mpr factor
      exact_mod_cast sum
    have other : (x : ZMod q) ^ 3 + 7 = 0 := by
      have sum := (ZMod.natCast_eq_zero_iff (x ^ 3 + 7) q).mpr cube
      exact_mod_cast sum
    exact add_right_cancel (whole.trans other.symm)
  have root : ((x : ZMod q) ^ ((fieldSize - 1) / 3)) ^ 3 = unityRoot := by
    rw [pow_right_comm, ← seven, ← cast pow_unityRoot, Nat.cast_pow]
  have notOne : ((x : ZMod q) ^ ((fieldSize - 1) / 3)) ^ 3 ^ 1 ≠ 1 := by
    rw [pow_one, root]
    intro one
    have divides : q ∣ unityRoot - 1 := by
      have same := (ZMod.natCast_eq_natCast_iff unityRoot 1 q).mp (by simpa using one)
      exact (Nat.modEq_iff_dvd' (by decide)).mp same.symm
    exact prime.one_lt.ne' (Nat.eq_one_of_dvd_coprimes coprime divides factor)
  have one : ((x : ZMod q) ^ ((fieldSize - 1) / 3)) ^ 3 ^ (1 + 1) = 1 := by
    have power := cast third
    rw [Nat.cast_pow, ← root, ← pow_mul, Nat.cast_one] at power
    exact power
  have nonzero : (x : ZMod q) ^ ((fieldSize - 1) / 3) ≠ 0 := by
    intro zero
    rw [zero, zero_pow (by decide)] at one
    exact zero_ne_one one
  have nine := ZMod.orderOf_dvd_card_sub_one nonzero
  have : Fact (Nat.Prime 3) := ⟨Nat.prime_three⟩
  rw [orderOf_eq_prime_pow notOne one] at nine
  exact ((Nat.modEq_iff_dvd' prime.one_lt.le).mpr nine).symm

theorem cube_add_seven_ne (x : Nat) : ¬ fieldSize ∣ x ^ 3 + 7 := by
  intro cube
  have all := modEq_one_of_factors (n := fieldSize) (k := 9) (by decide) fun q prime factor =>
    modEq_one_of_cube prime factor (factor.trans cube)
  exact absurd all (by decide)

theorem onCurve_zero (x : Nat) : onCurve x 0 = false := by
  have cube := cube_add_seven_ne x
  rw [Nat.dvd_iff_mod_eq_zero, pow_three', eq_comm] at cube
  exact beq_eq_false_iff_ne.mpr cube

/-! ## Both parities -/

/-- A coordinate that has an even `y` has the negated one as its odd `y`. -/
theorem lift?_odd {x y : Nat} (h : lift? x false = some y) :
    lift? x true = some (fieldSize - y) := by
  have below := root_lt x
  have size : fieldSize % 2 = 1 := by decide
  have vertical := onCurve_zero x
  simp only [lift?] at h ⊢
  generalize root x = r at h below ⊢
  by_cases range : x < fieldSize
  · rw [if_pos range] at h ⊢
    by_cases odd : r % 2 = 1
    · have negated := neg_of_pos below (by omega)
      have same : onCurve x (fieldSize - r) = onCurve x r := by
        rw [← negated, onCurve_neg below (by omega)]
      simp [odd, negated, same] at h
      obtain ⟨⟨found, -⟩, rfl⟩ := h
      have back : fieldSize - (fieldSize - r) = r := by omega
      simp [odd, found, back]
    · have even : r % 2 = 0 := by omega
      simp [even] at h
      obtain ⟨found, rfl⟩ := h
      have positive : 0 < r := by
        rcases Nat.eq_zero_or_pos r with zero | positive
        · rw [zero, vertical] at found
          cases found
        · exact positive
      have negated := neg_of_pos below positive
      have same : onCurve x (fieldSize - r) = onCurve x r := by
        rw [← negated, onCurve_neg below positive]
      have parity : (fieldSize - r) % 2 = 1 := by omega
      simp [even, negated, same, found, parity]
  · simp [range] at h

/-! ## Keys without parity -/

theorem ofCoordinate?_xOnly {x : Nat} {odd : Bool} {k : CurveKey}
    (h : CurveKey.ofCoordinate? x odd = some k) : XOnlyKey.ofCoordinate? x = some k.xOnly := by
  obtain ⟨rfl, rfl⟩ := coordinate_of_ofCoordinate? h
  obtain ⟨x, odd, y, lifted⟩ := k
  cases odd with
  | false => simp [XOnlyKey.ofCoordinate?, h]
  | true =>
    rw [XOnlyKey.ofCoordinate?, ofCoordinate?_of_lift? (lift?_even lifted)]
    rfl

/-- The key without parity at a coordinate comes of the keys of both parities. -/
theorem exists_of_xOnly {x : Nat} {key : XOnlyKey} (h : XOnlyKey.ofCoordinate? x = some key)
    (odd : Bool) : ∃ k, CurveKey.ofCoordinate? x odd = some k ∧ k.xOnly = key := by
  have found : ∃ k, CurveKey.ofCoordinate? x odd = some k := by
    obtain ⟨k, even, -⟩ := Option.map_eq_some_iff.mp h
    cases odd with
    | false => exact ⟨k, even⟩
    | true =>
      obtain ⟨rfl, parity⟩ := coordinate_of_ofCoordinate? even
      exact ⟨_, ofCoordinate?_of_lift? (lift?_odd (parity ▸ k.lifted))⟩
  obtain ⟨k, found⟩ := found
  have same := ofCoordinate?_xOnly found
  rw [h, Option.some.injEq] at same
  exact ⟨k, found, same.symm⟩

theorem ofCoordinate?_x (key : XOnlyKey) : XOnlyKey.ofCoordinate? key.key.x = some key := by
  obtain ⟨⟨x, odd, y, lifted⟩, even⟩ := key
  cases even
  rw [XOnlyKey.ofCoordinate?, ofCoordinate?_of_lift? lifted]
  rfl

/-- A key without parity is read back from its bytes. -/
theorem ofBytes?_bytes (key : XOnlyKey) : XOnlyKey.ofBytes? key.bytes.toList = some key := by
  have range : key.key.x < 256 ^ 32 := Nat.lt_trans (lt_of_lift? key.key.lifted) (by decide)
  have number : ofBigEndian (bigEndian 32 key.key.x) = key.key.x := ofBigEndian_bigEndian range
  show XOnlyKey.ofBytes? (bigEndian 32 key.key.x) = some key
  rw [XOnlyKey.ofBytes?, length_bigEndian, if_pos rfl, number, ofCoordinate?_x]

@[simp] theorem xOnly_x (k : CurveKey) : k.xOnly.key.x = k.x := by
  unfold CurveKey.xOnly
  split
  · rfl
  · rfl

/-- A key without parity is read from its bytes and from no others. -/
theorem ofBytes?_eq_some_iff {bs : List UInt8} {key : XOnlyKey} :
    XOnlyKey.ofBytes? bs = some key ↔ bs = key.bytes.toList := by
  constructor
  · intro h
    unfold XOnlyKey.ofBytes? at h
    split at h
    · rename_i size
      obtain ⟨k, found, rfl⟩ := exists_of_xOnly h false
      have written := bigEndian_ofBigEndian bs
      rw [size, ← (coordinate_of_ofCoordinate? found).1, ← xOnly_x] at written
      exact written.symm
    · cases h
  · intro h
    rw [h]
    exact ofBytes?_bytes key

end MoveWallet.Curve.Secp256k1
