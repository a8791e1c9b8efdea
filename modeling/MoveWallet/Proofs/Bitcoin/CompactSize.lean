/-
# MoveWallet.Proofs.Bitcoin.CompactSize — lengths are read back, and have one shortest form

`read?_write` reads the form of a number off the front of whatever follows it: the number itself if
it is below 2^64, its low 64 bits otherwise.  A number has up to four forms, one a width;
`write_shortest` says that every form but the written one is longer.
-/
import MoveWallet.Bitcoin.CompactSize
import MoveWallet.Proofs.Bytes.Endian

namespace MoveWallet.Bitcoin.CompactSize

set_option autoImplicit false

open MoveWallet.Bytes.Endian

/-! ## One width -/

theorem readWidth_eq_some {w n : Nat} {bs rest : List UInt8} :
    readWidth w bs = some (n, rest) ↔
      ∃ head, head.length = w ∧ bs = head ++ rest ∧ ofLittleEndian head = n := by
  unfold readWidth
  constructor
  · intro h
    split at h
    · rename_i enough
      cases h
      exact ⟨bs.take w, List.length_take_of_le enough, (List.take_append_drop w bs).symm, rfl⟩
    · cases h
  · rintro ⟨head, rfl, rfl, rfl⟩
    simp

theorem readWidth_littleEndian (w n : Nat) (rest : List UInt8) :
    readWidth w (littleEndian w n ++ rest) = some (n % 256 ^ w, rest) :=
  readWidth_eq_some.mpr ⟨_, length_littleEndian w n, rfl, ofLittleEndian_littleEndian_mod w n⟩

/-! ## Widths -/

theorem write_one {n : Nat} (small : n < 0xFD) : write n = [UInt8.ofNat n] := by
  rw [write, if_pos small]

theorem write_two {n : Nat} (large : 0xFD ≤ n) (small : n < 256 ^ 2) :
    write n = 0xFD :: littleEndian 2 n := by
  have fits : n < UInt16.size := small
  rw [write, if_neg (by omega), if_pos fits]

theorem write_four {n : Nat} (large : 256 ^ 2 ≤ n) (small : n < 256 ^ 4) :
    write n = 0xFE :: littleEndian 4 n := by
  have wide : ¬ n < UInt16.size := Nat.not_lt.mpr large
  have fits : n < UInt32.size := small
  rw [write, if_neg (by omega), if_neg wide, if_pos fits]

theorem write_eight {n : Nat} (large : 256 ^ 4 ≤ n) : write n = 0xFF :: littleEndian 8 n := by
  have wide : ¬ n < UInt16.size := Nat.not_lt.mpr (Nat.le_trans (by decide) large)
  have wider : ¬ n < UInt32.size := Nat.not_lt.mpr large
  rw [write, if_neg (by omega), if_neg wide, if_neg wider]

/-! ## Reading back -/

/-- The form of a number is read as its low 64 bits, whatever follows it. -/
theorem read?_write (n : Nat) (rest : List UInt8) :
    read? (write n ++ rest) = some (n % 2 ^ 64, rest) := by
  rcases Nat.lt_or_ge n 0xFD with one | large
  · have number : (UInt8.ofNat n).toNat = n := by
      rw [UInt8.toNat_ofNat']
      omega
    have small : UInt8.ofNat n < 0xFD := by
      rw [UInt8.lt_iff_toNat_lt, number]
      exact one
    have whole : n % 2 ^ 64 = n := by omega
    rw [write_one one]
    simp only [List.singleton_append, read?, small, if_true, number, whole]
  · rcases Nat.lt_or_ge n (256 ^ 2) with two | large
    · have whole : n % 256 ^ 2 = n % 2 ^ 64 := by omega
      rw [write_two (by assumption) two, ← whole]
      exact readWidth_littleEndian 2 n rest
    · rcases Nat.lt_or_ge n (256 ^ 4) with four | large
      · have whole : n % 256 ^ 4 = n % 2 ^ 64 := by omega
        rw [write_four (by assumption) four, ← whole]
        exact readWidth_littleEndian 4 n rest
      · rw [write_eight large]
        exact readWidth_littleEndian 8 n rest

/-- Two texts that begin with a length have the same rest. -/
theorem append_inj {m n : Nat} {s t : List UInt8} (h : write m ++ s = write n ++ t) : s = t := by
  have read := read?_write m s
  rw [h, read?_write n t, Option.some.injEq, Prod.mk.injEq] at read
  exact read.2.symm

/-! ## The shortest form -/

theorem length_write (n : Nat) :
    (write n).length =
      if n < 0xFD then 1 else if n < UInt16.size then 3 else if n < UInt32.size then 5 else 9 := by
  unfold write
  split_ifs <;> simp

/-- The bytes of a width are the low bytes of the number that they are read as. -/
theorem littleEndian_of_length {w : Nat} {head : List UInt8} (size : head.length = w) :
    littleEndian w (ofLittleEndian head) = head ∧ ofLittleEndian head < 256 ^ w := by
  subst size
  exact ⟨littleEndian_ofLittleEndian head, ofLittleEndian_lt head⟩

/-- A form of one width behind its marker is the written one of a number that needs the width, and
longer than that of a smaller number. -/
theorem shortest_of_readWidth {marker : UInt8} {w n least : Nat} {rest : List UInt8}
    (h : readWidth w rest = some (n, []))
    (needed : least ≤ n → n < 256 ^ w → write n = marker :: littleEndian w n)
    (shorter : n < least → (write n).length < w + 1) :
    marker :: rest = write n ∨ (write n).length < (marker :: rest).length := by
  obtain ⟨head, width, rfl, rfl⟩ := readWidth_eq_some.mp h
  obtain ⟨same, bound⟩ := littleEndian_of_length width
  rw [List.append_nil]
  rcases Nat.lt_or_ge (ofLittleEndian head) least with small | large
  · right
    rw [List.length_cons, width]
    exact shorter small
  · left
    rw [needed large bound, same]

/-- Every form of a number but the written one is longer. -/
theorem write_shortest {form : List UInt8} {n : Nat} (h : read? form = some (n, [])) :
    form = write n ∨ (write n).length < form.length := by
  have size := length_write n
  cases form with
  | nil => cases h
  | cons b rest =>
    rw [read?] at h
    split_ifs at h with one two four
    · cases h
      left
      rw [write_one (UInt8.lt_iff_toNat_lt.mp one), UInt8.ofNat_toNat]
    · subst two
      refine shortest_of_readWidth h write_two ?_
      intro small
      rw [size, if_pos small]
      decide
    · subst four
      refine shortest_of_readWidth h write_four ?_
      intro small
      have fits : n < UInt16.size := small
      rw [size, if_pos fits]
      split_ifs <;> decide
    · have last : b = 0xFF := by
        rw [← UInt8.toNat_inj] at two four ⊢
        rw [UInt8.lt_iff_toNat_lt] at one
        have byte := b.toNat_lt
        simp only [UInt8.reduceToNat] at *
        omega
      subst last
      refine shortest_of_readWidth h (fun large _ => write_eight large) ?_
      intro small
      have fits : n < UInt32.size := small
      rw [size, if_pos fits]
      split_ifs <;> decide

end MoveWallet.Bitcoin.CompactSize
