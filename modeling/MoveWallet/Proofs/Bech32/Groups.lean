/-
# MoveWallet.Proofs.Bech32.Groups — bytes cut into groups of five bits are joined again

Groups and bytes are two ways to cut one string of bits.  `bitsOfGroups_groupsOf` says which bits
the groups of bytes hold: those of the bytes and at most four zeros.  So joining them gives the
bytes back (`bytesOf_groupsOf`) and nothing but zeros is left over (`leftoverIsZero_groupsOf`).  These
are all such groups: where nothing but zeros is left over, the bytes give the groups back
(`groupsOf_bytesOf`).
-/
import Mathlib.Algebra.Group.Nat.Defs
import MoveWallet.Bech32

namespace MoveWallet.Bech32

set_option autoImplicit false

/-! ## Numbers and bits -/

@[simp] theorem length_bitsOf (n v : Nat) : (bitsOf n v).length = n := by
  induction n with
  | zero => rfl
  | succ n ih => rw [bitsOf, List.length_cons, ih]

/-- Reading goes on from a number already read. -/
theorem foldl_bits (bs : List Bool) (start : Nat) :
    bs.foldl (fun v b => 2 * v + b.toNat) start = start * 2 ^ bs.length + ofBits bs := by
  induction bs generalizing start with
  | nil => rw [List.foldl_nil, List.length_nil, Nat.pow_zero, Nat.mul_one]; rfl
  | cons b bs ih =>
    have shift : 2 * start * 2 ^ bs.length = start * (2 ^ bs.length * 2) := by
      rw [Nat.mul_comm (2 ^ bs.length), ← Nat.mul_assoc, Nat.mul_comm start]
    have alone : ofBits (b :: bs) = (2 * 0 + b.toNat) * 2 ^ bs.length + ofBits bs := ih _
    rw [List.foldl_cons, ih, alone, List.length_cons, Nat.pow_succ, Nat.add_mul, shift,
      Nat.mul_zero, Nat.zero_add, Nat.add_assoc]

theorem ofBits_cons (b : Bool) (bs : List Bool) :
    ofBits (b :: bs) = b.toNat * 2 ^ bs.length + ofBits bs := by
  rw [ofBits, List.foldl_cons, foldl_bits, Nat.mul_zero, Nat.zero_add]

theorem ofBits_lt (bs : List Bool) : ofBits bs < 2 ^ bs.length := by
  induction bs with
  | nil => exact Nat.one_pos
  | cons b bs ih =>
    have digit : b.toNat * 2 ^ bs.length ≤ 1 * 2 ^ bs.length :=
      Nat.mul_le_mul_right _ (Bool.toNat_le b)
    rw [ofBits_cons, List.length_cons, Nat.pow_succ]
    omega

/-- A number is read back from its low bits. -/
theorem ofBits_bitsOf (n v : Nat) : ofBits (bitsOf n v) = v % 2 ^ n := by
  induction n with
  | zero => rw [bitsOf, Nat.pow_zero, Nat.mod_one]; rfl
  | succ n ih =>
    rw [bitsOf, ofBits_cons, length_bitsOf, ih, Nat.mod_pow_succ, Nat.toNat_testBit, Nat.mul_comm,
      Nat.add_comm]

theorem bitsOf_add_mul (n k v : Nat) : bitsOf n (k * 2 ^ n + v) = bitsOf n v := by
  induction n generalizing k with
  | zero => rfl
  | succ n ih =>
    have shape : k * 2 ^ (n + 1) + v = k * 2 * 2 ^ n + v := by
      rw [Nat.pow_succ, Nat.mul_assoc, Nat.mul_comm 2]
    have top : (k * 2 ^ (n + 1) + v).testBit n = v.testBit n := by
      rw [Nat.testBit_eq_decide_div_mod_eq, Nat.testBit_eq_decide_div_mod_eq, shape, Nat.add_comm,
        Nat.add_mul_div_right _ _ (Nat.two_pow_pos n), Nat.add_mul_mod_self_right]
    rw [bitsOf, bitsOf, top, shape, ih]

/-- Bits are those of the number that they are read as. -/
theorem bitsOf_ofBits (bs : List Bool) : bitsOf bs.length (ofBits bs) = bs := by
  induction bs with
  | nil => rfl
  | cons b bs ih =>
    have small := ofBits_lt bs
    have top : (b.toNat * 2 ^ bs.length + ofBits bs).testBit bs.length = b := by
      rw [Nat.testBit_eq_decide_div_mod_eq, Nat.add_comm,
        Nat.add_mul_div_right _ _ (Nat.two_pow_pos _), Nat.div_eq_of_lt small]
      cases b <;> rfl
    rw [ofBits_cons, List.length_cons, bitsOf, top, bitsOf_add_mul, ih]

/-! ## Runs -/

@[simp] theorem length_runs (size n : Nat) (bs : List Bool) : (runs size n bs).length = n := by
  induction n generalizing bs with
  | zero => rfl
  | succ n ih => rw [runs, List.length_cons, ih]

theorem length_of_mem_runs {size n : Nat} {bs r : List Bool} (long : size * n ≤ bs.length)
    (h : r ∈ runs size n bs) : r.length = size := by
  induction n generalizing bs with
  | zero => cases h
  | succ n ih =>
    rw [Nat.mul_succ] at long
    rw [runs] at h
    rcases List.mem_cons.mp h with rfl | h
    · exact List.length_take_of_le (by omega)
    · refine ih ?_ h
      rw [List.length_drop]
      omega

/-- Runs put together are the bits that they were cut from. -/
theorem flatten_runs (size n : Nat) (bs : List Bool) :
    (runs size n bs).flatten = bs.take (size * n) := by
  induction n generalizing bs with
  | zero => rw [runs, List.flatten_nil, Nat.mul_zero, List.take_zero]
  | succ n ih => rw [runs, List.flatten_cons, ih, Nat.mul_succ, Nat.add_comm, List.take_add]

/-- Pieces of one length are found again as runs, whatever follows them. -/
theorem runs_flatMap {α : Type} {size : Nat} {f : α → List Bool} (h : ∀ a, (f a).length = size)
    (as : List α) (tail : List Bool) :
    runs size as.length (as.flatMap f ++ tail) = as.map f := by
  induction as with
  | nil => rfl
  | cons a as ih =>
    rw [List.length_cons, runs, List.flatMap_cons, List.append_assoc,
      List.take_left' (h a), List.drop_left' (h a), ih, List.map_cons]

/-! ## Groups -/

theorem length_bitsOfBytes (bs : List UInt8) : (bitsOfBytes bs).length = 8 * bs.length := by
  induction bs with
  | nil => rfl
  | cons b bs ih =>
    rw [bitsOfBytes] at ih
    rw [bitsOfBytes, List.flatMap_cons, List.length_append, length_bitsOf, ih, List.length_cons]
    omega

theorem length_groupsOf (bs : List UInt8) : (groupsOf bs).length = (8 * bs.length + 4) / 5 := by
  simp only [groupsOf, List.length_map, length_runs]

theorem bitsOf_group {r : List Bool} (h : r.length = 5) :
    bitsOf 5 (BitVec.ofNat 5 (ofBits r)).toNat = r := by
  have small := ofBits_lt r
  rw [h] at small
  have read := bitsOf_ofBits r
  rw [h] at read
  rw [BitVec.toNat_ofNat, Nat.mod_eq_of_lt small, read]

theorem length_bitsOfGroups (gs : List Group) : (bitsOfGroups gs).length = 5 * gs.length := by
  induction gs with
  | nil => rfl
  | cons g gs ih =>
    rw [bitsOfGroups] at ih
    rw [bitsOfGroups, List.flatMap_cons, List.length_append, length_bitsOf, ih, List.length_cons]
    omega

/-- The groups that bits are cut into. -/
def groupsOfBits (bits : List Bool) : List Group :=
  (runs 5 (bits.length / 5) bits).map fun r => BitVec.ofNat 5 (ofBits r)

/-- Bits that come out even are held by their groups. -/
theorem bitsOfGroups_groupsOfBits {bits : List Bool} (even : 5 ∣ bits.length) :
    bitsOfGroups (groupsOfBits bits) = bits := by
  have long : 5 * (bits.length / 5) = bits.length := Nat.mul_div_cancel' even
  have pieces : ∀ r ∈ runs 5 (bits.length / 5) bits,
      bitsOf 5 (BitVec.ofNat 5 (ofBits r)).toNat = r := fun r member =>
    bitsOf_group (length_of_mem_runs (Nat.le_of_eq long) member)
  rw [bitsOfGroups, groupsOfBits, List.flatMap_map, List.flatMap_def, List.map_congr_left pieces,
    List.map_id', flatten_runs, List.take_of_length_le (Nat.le_of_eq long.symm)]

/-- Groups are those of the bits that they hold. -/
theorem groupsOfBits_bitsOfGroups (gs : List Group) : groupsOfBits (bitsOfGroups gs) = gs := by
  have count : (bitsOfGroups gs).length / 5 = gs.length := by
    rw [length_bitsOfGroups]
    omega
  have pieces := runs_flatMap (fun g : Group => length_bitsOf 5 g.toNat) gs []
  rw [List.append_nil, ← bitsOfGroups] at pieces
  rw [groupsOfBits, count, pieces, List.map_map]
  refine (List.map_congr_left ?_).trans (List.map_id gs)
  intro g _
  show BitVec.ofNat 5 (ofBits (bitsOf 5 g.toNat)) = g
  rw [ofBits_bitsOf, Nat.mod_eq_of_lt g.isLt, BitVec.ofNat_toNat, BitVec.setWidth_eq]

/-- How many zeros fill up the last group of a number of bytes. -/
def fill (size : Nat) : Nat := 5 * ((8 * size + 4) / 5) - 8 * size

theorem length_filled (bs : List UInt8) :
    (bitsOfBytes bs ++ List.replicate (fill bs.length) false).length =
      5 * ((8 * bs.length + 4) / 5) := by
  rw [List.length_append, length_bitsOfBytes, List.length_replicate, fill]
  omega

theorem groupsOf_eq (bs : List UInt8) :
    groupsOf bs = groupsOfBits (bitsOfBytes bs ++ List.replicate (fill bs.length) false) := by
  rw [groupsOfBits, length_filled, Nat.mul_div_cancel_left _ (by decide)]
  rfl

/-- The groups of bytes hold the bits of the bytes, filled up with zeros. -/
theorem bitsOfGroups_groupsOf (bs : List UInt8) :
    bitsOfGroups (groupsOf bs) = bitsOfBytes bs ++ List.replicate (fill bs.length) false := by
  rw [groupsOf_eq]
  apply bitsOfGroups_groupsOfBits
  rw [length_filled]
  exact Nat.dvd_mul_right _ _

/-- The groups of bytes hold as many whole bytes. -/
theorem whole_groupsOf (bs : List UInt8) : 5 * (groupsOf bs).length / 8 = bs.length := by
  rw [length_groupsOf]
  refine Nat.div_eq_of_lt_le ?_ ?_
  · omega
  · omega

/-- Groups that hold the bits of bytes and fewer than eight more are joined to these bytes. -/
theorem bytesOf_of_bits {gs : List Group} {bs : List UInt8} {pad : List Bool}
    (bits : bitsOfGroups gs = bitsOfBytes bs ++ pad) (few : pad.length < 8) : bytesOf gs = bs := by
  have sizes := congrArg List.length bits
  rw [length_bitsOfGroups, List.length_append, length_bitsOfBytes] at sizes
  have whole : 5 * gs.length / 8 = bs.length := by omega
  rw [bytesOf, whole, bits, bitsOfBytes, runs_flatMap (fun b : UInt8 => length_bitsOf 8 b.toNat),
    List.map_map]
  refine (List.map_congr_left ?_).trans (List.map_id bs)
  intro b _
  show UInt8.ofNat (ofBits (bitsOf 8 b.toNat)) = b
  rw [ofBits_bitsOf, Nat.mod_eq_of_lt b.toNat_lt, UInt8.ofNat_toNat]

theorem fill_lt (size : Nat) : fill size < 5 := by
  unfold fill
  omega

/-- Joining the groups of bytes gives the bytes. -/
theorem bytesOf_groupsOf (bs : List UInt8) : bytesOf (groupsOf bs) = bs := by
  apply bytesOf_of_bits (bitsOfGroups_groupsOf bs)
  rw [List.length_replicate]
  exact Nat.lt_trans (fill_lt _) (by decide)

/-- What the groups of bytes hold beyond the bytes is zero. -/
theorem leftoverIsZero_groupsOf (bs : List UInt8) : leftoverIsZero (groupsOf bs) = true := by
  have size := length_groupsOf bs
  have parts := Nat.div_add_mod (5 * (groupsOf bs).length) 8
  rw [whole_groupsOf] at parts
  have few : 5 * (groupsOf bs).length % 8 ≤ 4 := by omega
  have place : 5 * (groupsOf bs).length - 5 * (groupsOf bs).length % 8 = 8 * bs.length := by omega
  rw [leftoverIsZero, Bool.and_eq_true, decide_eq_true_eq]
  refine ⟨few, ?_⟩
  rw [place, bitsOfGroups_groupsOf, List.drop_left' (length_bitsOfBytes bs)]
  rw [List.all_eq_true]
  intro bit member
  rw [List.eq_of_mem_replicate member]
  rfl

/-! ## From groups to bytes and back -/

theorem length_bytesOf (gs : List Group) : (bytesOf gs).length = 5 * gs.length / 8 := by
  simp only [bytesOf, List.length_map, length_runs]

theorem bitsOf_byte {r : List Bool} (h : r.length = 8) :
    bitsOf 8 (UInt8.ofNat (ofBits r)).toNat = r := by
  have small := ofBits_lt r
  rw [h] at small
  have read := bitsOf_ofBits r
  rw [h] at read
  rw [UInt8.toNat_ofNat_of_lt' small, read]

/-- The bytes in groups hold the bits of the groups, as far as they go. -/
theorem bitsOfBytes_bytesOf (gs : List Group) :
    bitsOfBytes (bytesOf gs) = (bitsOfGroups gs).take (8 * (5 * gs.length / 8)) := by
  have long : 8 * (5 * gs.length / 8) ≤ (bitsOfGroups gs).length := by
    rw [length_bitsOfGroups]
    exact Nat.mul_div_le _ _
  have pieces : ∀ r ∈ runs 8 (5 * gs.length / 8) (bitsOfGroups gs),
      bitsOf 8 (UInt8.ofNat (ofBits r)).toNat = r := fun r member =>
    bitsOf_byte (length_of_mem_runs long member)
  rw [bitsOfBytes, bytesOf, List.flatMap_map, List.flatMap_def, List.map_congr_left pieces,
    List.map_id', flatten_runs]

/-- Groups that leave only zeros over are the groups of the bytes in them. -/
theorem groupsOf_bytesOf {gs : List Group} (h : leftoverIsZero gs = true) :
    groupsOf (bytesOf gs) = gs := by
  rw [leftoverIsZero, Bool.and_eq_true, decide_eq_true_eq] at h
  obtain ⟨few, zeros⟩ := h
  have parts := Nat.div_add_mod (5 * gs.length) 8
  have place : 5 * gs.length - 5 * gs.length % 8 = 8 * (5 * gs.length / 8) := by omega
  have rest : (bitsOfGroups gs).drop (8 * (5 * gs.length / 8)) =
      List.replicate (fill (bytesOf gs).length) false := by
    rw [List.eq_replicate_iff, List.length_drop, length_bitsOfGroups, length_bytesOf, fill]
    rw [place] at zeros
    refine ⟨by omega, fun bit member => ?_⟩
    simpa using List.all_eq_true.mp zeros bit member
  rw [groupsOf_eq, bitsOfBytes_bytesOf, ← rest, List.take_append_drop, groupsOfBits_bitsOfGroups]

end MoveWallet.Bech32
