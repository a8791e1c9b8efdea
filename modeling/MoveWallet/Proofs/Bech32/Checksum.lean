/-
# MoveWallet.Proofs.Bech32.Checksum — the groups that `checksum` appends complete a text

A step of the checksum is linear in exclusive or (`checksumStep_xor`), and a state below 2^25 only
moves up by five bits.  So six groups of five bits add themselves, put together, to the state that
six zero groups would give (`foldl_digits`), and the groups of `checksum` are chosen to make up what
is missing to the variant's constant (`checksumState_checksum`).
-/
import Mathlib.Algebra.Group.Nat.Defs
import MoveWallet.Bech32

namespace MoveWallet.Bech32

set_option autoImplicit false

/-! ## Linearity -/

/-- What the bits of `top` bring in. -/
def termsOf (top : Nat) (terms : List (Nat × Nat)) (start : Nat) : Nat :=
  terms.foldl (fun s (g, i) => if top.testBit i then s ^^^ g else s) start

theorem termsOf_cons (top g i start : Nat) (terms : List (Nat × Nat)) :
    termsOf top ((g, i) :: terms) start =
      termsOf top terms (if top.testBit i then start ^^^ g else start) := rfl

theorem termsOf_start (top : Nat) (terms : List (Nat × Nat)) (start : Nat) :
    termsOf top terms start = start ^^^ termsOf top terms 0 := by
  induction terms generalizing start with
  | nil => exact (Nat.xor_zero start).symm
  | cons term terms ih =>
    obtain ⟨g, i⟩ := term
    rw [termsOf_cons, termsOf_cons, ih, ih (if top.testBit i then 0 ^^^ g else 0)]
    cases top.testBit i with
    | false => simp only [Bool.false_eq_true, if_false, Nat.zero_xor]
    | true => simp only [if_true, Nat.zero_xor, Nat.xor_assoc]

theorem termsOf_xor (a b : Nat) (terms : List (Nat × Nat)) :
    termsOf (a ^^^ b) terms 0 = termsOf a terms 0 ^^^ termsOf b terms 0 := by
  induction terms with
  | nil => exact (Nat.xor_self 0).symm
  | cons term terms ih =>
    obtain ⟨g, i⟩ := term
    rw [termsOf_cons, termsOf_cons, termsOf_cons, termsOf_start, ih,
      termsOf_start a terms (if a.testBit i then 0 ^^^ g else 0),
      termsOf_start b terms (if b.testBit i then 0 ^^^ g else 0), Nat.testBit_xor]
    cases a.testBit i with
    | false =>
      cases b.testBit i with
      | false => simp
      | true =>
        simp only [Bool.false_bne, if_true, Bool.false_eq_true, if_false, Nat.zero_xor]
        ac_rfl
    | true =>
      cases b.testBit i with
      | false =>
        simp only [Bool.true_bne, Bool.not_false, if_true, Bool.false_eq_true, if_false,
          Nat.zero_xor]
        ac_rfl
      | true =>
        have pair : g ^^^ termsOf a terms 0 ^^^ (g ^^^ termsOf b terms 0) =
            (g ^^^ g) ^^^ (termsOf a terms 0 ^^^ termsOf b terms 0) := by ac_rfl
        simp only [Bool.true_bne, Bool.not_true, Bool.false_eq_true, if_false, if_true,
          Nat.zero_xor, pair, Nat.xor_self]

theorem checksumStep_eq (state group : Nat) :
    checksumStep state group =
      ((state &&& 0x1FFFFFF) <<< 5 ^^^ group) ^^^ termsOf (state >>> 25) generators.zipIdx 0 :=
  termsOf_start (state >>> 25) generators.zipIdx ((state &&& 0x1FFFFFF) <<< 5 ^^^ group)

/-- A step is linear in the state and the group. -/
theorem checksumStep_xor (s t g h : Nat) :
    checksumStep (s ^^^ t) (g ^^^ h) = checksumStep s g ^^^ checksumStep t h := by
  rw [checksumStep_eq, checksumStep_eq, checksumStep_eq, Nat.shiftRight_xor_distrib, termsOf_xor,
    Nat.and_xor_distrib_right, Nat.shiftLeft_xor_distrib]
  ac_rfl

theorem termsOf_zero (terms : List (Nat × Nat)) (start : Nat) : termsOf 0 terms start = start := by
  induction terms generalizing start with
  | nil => rfl
  | cons term terms ih =>
    obtain ⟨g, i⟩ := term
    rw [termsOf_cons, Nat.zero_testBit]
    exact ih start

/-- A small state moves up by five bits and takes the group in. -/
theorem checksumStep_small {t : Nat} (h : t < 2 ^ 25) (g : Nat) :
    checksumStep t g = t <<< 5 ^^^ g := by
  have top : t >>> 25 = 0 := by
    rw [Nat.shiftRight_eq_div_pow]
    exact Nat.div_eq_of_lt h
  have low : t &&& 0x1FFFFFF = t := Nat.and_two_pow_sub_one_of_lt_two_pow h
  rw [checksumStep_eq, top, termsOf_zero, Nat.xor_zero, low]

/-! ## Bounds -/

theorem termsOf_lt {top start n : Nat} {terms : List (Nat × Nat)} (small : start < 2 ^ n)
    (h : ∀ term ∈ terms, term.1 < 2 ^ n) : termsOf top terms start < 2 ^ n := by
  induction terms generalizing start with
  | nil => exact small
  | cons term terms ih =>
    obtain ⟨g, i⟩ := term
    rw [termsOf_cons]
    refine ih ?_ fun other member => h other (List.mem_cons_of_mem _ member)
    split
    · exact Nat.xor_lt_two_pow small (h (g, i) List.mem_cons_self)
    · exact small

theorem checksumStep_lt (state : Nat) {group : Nat} (h : group < 2 ^ 5) :
    checksumStep state group < 2 ^ 30 := by
  have low : state &&& 0x1FFFFFF < 2 ^ 25 := Nat.and_lt_two_pow state (by decide)
  have shifted : (state &&& 0x1FFFFFF) <<< 5 < 2 ^ 30 := by
    rw [Nat.shiftLeft_eq]
    omega
  have taken : (state &&& 0x1FFFFFF) <<< 5 ^^^ group < 2 ^ 30 :=
    Nat.xor_lt_two_pow shifted (Nat.lt_trans h (by decide))
  exact termsOf_lt taken (by decide)

/-! ## Six groups -/

/-- The lowest `n` groups of a number, highest first. -/
def digits : Nat → Nat → List Nat
  | 0, _ => []
  | n + 1, x => (x >>> (5 * n)) % 2 ^ 5 :: digits n x

/-- A number is its lowest group and what stands above it. -/
theorem xor_digit (x : Nat) : (x >>> 5) <<< 5 ^^^ x % 2 ^ 5 = x := by
  apply Nat.eq_of_testBit_eq
  intro i
  rw [Nat.testBit_xor, Nat.testBit_shiftLeft, Nat.testBit_shiftRight, Nat.testBit_mod_two_pow]
  by_cases high : 5 ≤ i
  · have outside : decide (i < 5) = false := decide_eq_false (Nat.not_lt.mpr high)
    rw [outside, Nat.add_sub_cancel' high, decide_eq_true high, Bool.true_and, Bool.false_and,
      Bool.xor_false]
  · have inside : decide (i < 5) = true := decide_eq_true (Nat.lt_of_not_le high)
    rw [inside, decide_eq_false high, Bool.false_and, Bool.true_and, Bool.false_xor]

/-- The groups of a number below 2^30 add the number to what as many zero groups give. -/
theorem foldl_digits {x : Nat} (h : x < 2 ^ 30) (n state : Nat) :
    (digits n x).foldl checksumStep (state ^^^ x >>> (5 * n)) =
      (List.replicate n 0).foldl checksumStep state ^^^ x := by
  induction n generalizing state with
  | zero => rfl
  | succ n ih =>
    have small : x >>> (5 * (n + 1)) < 2 ^ 25 := by
      have below : x >>> 5 < 2 ^ 25 := by
        rw [Nat.shiftRight_eq_div_pow]
        omega
      rw [show 5 * (n + 1) = 5 + 5 * n by omega, Nat.shiftRight_add, Nat.shiftRight_eq_div_pow]
      exact Nat.lt_of_le_of_lt (Nat.div_le_self _ _) below
    have above : x >>> (5 * (n + 1)) = x >>> (5 * n) >>> 5 := by
      rw [← Nat.shiftRight_add]
      rfl
    have step : checksumStep (state ^^^ x >>> (5 * (n + 1))) ((x >>> (5 * n)) % 2 ^ 5) =
        checksumStep state 0 ^^^ x >>> (5 * n) := by
      have linear := checksumStep_xor state (x >>> (5 * (n + 1))) 0 ((x >>> (5 * n)) % 2 ^ 5)
      rw [Nat.zero_xor] at linear
      rw [linear, checksumStep_small small, above, xor_digit]
    rw [digits, List.foldl_cons, step, ih, List.replicate_succ, List.foldl_cons]

theorem checksumState_append (hrp : List Char) (gs tail : List Group) :
    checksumState hrp (gs ++ tail) =
      (tail.map BitVec.toNat).foldl checksumStep (checksumState hrp gs) := by
  simp only [checksumState, List.map_append, ← List.append_assoc, List.foldl_append]

/-- Six groups add their number to the state that six zero groups would give. -/
theorem checksumState_digits {x : Nat} (small : x < 2 ^ 30) (hrp : List Char) (gs : List Group)
    {tail : List Group} (groups : tail.map BitVec.toNat = digits 6 x) :
    checksumState hrp (gs ++ tail) = checksumState hrp (gs ++ List.replicate 6 0) ^^^ x := by
  have top : x >>> (5 * 6) = 0 := by
    rw [Nat.shiftRight_eq_div_pow]
    exact Nat.div_eq_of_lt small
  have whole := foldl_digits small 6 (checksumState hrp gs)
  rw [top, Nat.xor_zero] at whole
  rw [checksumState_append, checksumState_append, groups, whole]
  rfl

/-- With the groups of `checksum` a text comes to its variant's constant. -/
theorem checksumState_checksum (v : Variant) (hrp : List Char) (gs : List Group) :
    checksumState hrp (gs ++ checksum v hrp gs) = v.residue := by
  have small : checksumState hrp (gs ++ List.replicate 6 0) ^^^ v.residue < 2 ^ 30 := by
    refine Nat.xor_lt_two_pow ?_ (by cases v <;> decide)
    rw [checksumState_append]
    exact checksumStep_lt _ (by decide)
  have groups : (checksum v hrp gs).map BitVec.toNat =
      digits 6 (checksumState hrp (gs ++ List.replicate 6 0) ^^^ v.residue) := rfl
  rw [checksumState_digits small hrp gs groups, ← Nat.xor_assoc, Nat.xor_self, Nat.zero_xor]

end MoveWallet.Bech32
