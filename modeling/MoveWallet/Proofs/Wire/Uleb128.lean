/-
# MoveWallet.Proofs.Wire.Uleb128 — groups of seven bits are read back, and in one form only

`decode_of_spans` reads the form of every number, whatever follows it; `spans_of_decode` says that
bytes read as a number are its form.  Both come from the same statement about the reading of one
group, for a number `n` that stands above `shift` bits already read.
-/
import Mathlib.Algebra.Group.Nat.Defs
import MoveWallet.Proofs.Wire.Cursor

namespace MoveWallet.Wire.Uleb128

set_option autoImplicit false

/-! ## One group -/

theorem groups_small {left n : Nat} (h : n < 0x80) : groups (left + 1) n = [UInt8.ofNat n] := by
  rw [groups, if_pos h]

theorem groups_large {left n : Nat} (h : ¬ n < 0x80) :
    groups (left + 1) n = UInt8.ofNat (0x80 + n % 0x80) :: groups left (n / 0x80) := by
  rw [groups, if_neg h]

theorem groups_ne_nil (left n : Nat) : groups (left + 1) n ≠ [] := by
  by_cases h : n < 0x80
  · rw [groups_small h]
    exact List.cons_ne_nil _ _
  · rw [groups_large h]
    exact List.cons_ne_nil _ _

theorem readByte_cons {c : Cursor} {b : UInt8} {bs : List UInt8} (h : c.rest = b :: bs) :
    Decoder.readByte c = (.ok b, ⟨c.position + 1, bs⟩) := by
  rw [Decoder.readByte, h]

theorem readByte_of_spans {c₁ c₂ : Cursor} {b : UInt8} (h : c₁.Spans [b] c₂) :
    Decoder.readByte c₁ = (.ok b, c₂) := by
  have stop : (⟨c₁.position + 1, [] ++ c₂.rest⟩ : Cursor) = c₂ := h.tail.eq_of_nil
  have read := readByte_cons h.rest_cons
  rwa [stop] at read

theorem spans_of_readByte {c₁ c₂ : Cursor} {b : UInt8} (h : Decoder.readByte c₁ = (.ok b, c₂)) :
    c₁.Spans [b] c₂ := by
  unfold Decoder.readByte at h
  split at h
  · rename_i first rest shape
    cases h
    exact ⟨shape, rfl⟩
  · cases h

/-- A number above `shift` bits is its lowest group and, seven bits further up, the others. -/
theorem shift_groups (n shift : Nat) :
    (n % 0x80) <<< shift + (n / 0x80) <<< (shift + 7) = n <<< shift := by
  simp only [Nat.shiftLeft_eq, Nat.pow_add]
  rw [Nat.mul_comm (2 ^ shift), ← Nat.mul_assoc, ← Nat.add_mul,
    show (2 : Nat) ^ 7 = 0x80 from rfl, Nat.mod_add_div']

/-- What a step of the reader does with a group that ends a number. -/
theorem decodeFrom_last {value shift left : Nat} {c : Cursor} {b : UInt8} {bs : List UInt8}
    (h : c.rest = b :: bs) (last : b < 0x80) :
    decodeFrom value shift (left + 1) c =
      (if shift ≠ 0 && b == 0 then Decoder.fail .nonCanonicalUleb128
        else if value + b.toNat <<< shift < UInt32.size then
          pure (UInt32.ofNat (value + b.toNat <<< shift))
        else Decoder.fail .uleb128Overflow) ⟨c.position + 1, bs⟩ := by
  have small : b.toNat % 0x80 = b.toNat := Nat.mod_eq_of_lt (UInt8.lt_iff_toNat_lt.mp last)
  rw [decodeFrom, Decoder.bind_of_ok (readByte_cons h)]
  simp only [last, if_true, small]

/-- What a step of the reader does with any other group. -/
theorem decodeFrom_more {value shift left : Nat} {c : Cursor} {b : UInt8} {bs : List UInt8}
    (h : c.rest = b :: bs) (more : ¬ b < 0x80) :
    decodeFrom value shift (left + 1) c =
      decodeFrom (value + (b.toNat % 0x80) <<< shift) (shift + 7) left ⟨c.position + 1, bs⟩ := by
  rw [decodeFrom, Decoder.bind_of_ok (readByte_cons h)]
  simp only [more, if_false]

/-- What a step of the reader does where no byte is left. -/
theorem decodeFrom_end {value shift left : Nat} {c : Cursor} (h : c.rest = []) :
    decodeFrom value shift (left + 1) c = (.error (.truncated 1 0), c) := by
  have short : Decoder.readByte c = (.error (.truncated 1 0), c) := by
    rw [Decoder.readByte, h]
  rw [decodeFrom, Decoder.bind_of_error short]

/-! ## Reading back -/

theorem decodeFrom_of_spans {left value shift n : Nat} {c₁ c₂ : Cursor} (fits : n < 0x80 ^ left)
    (canonical : shift = 0 ∨ n ≠ 0) (range : value + n <<< shift < UInt32.size)
    (h : c₁.Spans (groups left n) c₂) (positive : left ≠ 0) :
    decodeFrom value shift left c₁ = (.ok (UInt32.ofNat (value + n <<< shift)), c₂) := by
  induction left generalizing value shift n c₁ with
  | zero => exact absurd rfl positive
  | succ left ih =>
    by_cases small : n < 0x80
    · rw [groups_small small] at h
      have number : (UInt8.ofNat n).toNat = n := by rw [UInt8.toNat_ofNat']; omega
      have last : UInt8.ofNat n < 0x80 := by
        rw [UInt8.lt_iff_toNat_lt, number]
        exact small
      have shortest : ¬((shift ≠ 0 && UInt8.ofNat n == 0) = true) := by
        simp only [Bool.and_eq_true, decide_eq_true_eq, beq_iff_eq, ← UInt8.toNat_inj, number]
        intro both
        exact canonical.elim both.1 fun nonzero => nonzero both.2
      have stop : (⟨c₁.position + 1, [] ++ c₂.rest⟩ : Cursor) = c₂ := h.tail.eq_of_nil
      rw [decodeFrom_last h.rest_cons last, if_neg shortest, number, if_pos range, stop]
      rfl
    · rw [groups_large small] at h
      have number : (UInt8.ofNat (0x80 + n % 0x80)).toNat = 0x80 + n % 0x80 := by
        rw [UInt8.toNat_ofNat']; omega
      have more : ¬ UInt8.ofNat (0x80 + n % 0x80) < 0x80 := by
        rw [UInt8.lt_iff_toNat_lt, number, show (0x80 : UInt8).toNat = 0x80 from rfl]
        omega
      have whole := shift_groups n shift
      have low : (0x80 + n % 0x80) % 0x80 = n % 0x80 := by omega
      rw [Nat.pow_succ] at fits
      have above : n / 0x80 < 0x80 ^ left := by omega
      have remaining : left ≠ 0 := by
        rintro rfl
        rw [Nat.pow_zero] at above
        omega
      have sum : value + (n % 0x80) <<< shift + (n / 0x80) <<< (shift + 7) =
          value + n <<< shift := by
        rw [Nat.add_assoc, whole]
      have rest := ih above (.inr (by omega)) (by rw [sum]; exact range) h.tail remaining
      rw [decodeFrom_more h.rest_cons more, number, low]
      rwa [sum] at rest

/-- Wherever the form of a number stands it is read as that number. -/
theorem decode_of_spans {n : UInt32} {c₁ c₂ : Cursor} (h : c₁.Spans (encode n) c₂) :
    decode c₁ = (.ok n, c₂) := by
  have bound : n.toNat < 2 ^ 32 := n.toNat_lt
  have whole : 0 + n.toNat <<< 0 = n.toNat := by rw [Nat.shiftLeft_zero, Nat.zero_add]
  have fits : n.toNat < 0x80 ^ maxBytes := by
    rw [maxBytes]
    omega
  have range : 0 + n.toNat <<< 0 < UInt32.size := by
    rw [whole]
    exact bound
  have read := decodeFrom_of_spans fits (.inl rfl) range h (by decide)
  rwa [whole, UInt32.ofNat_toNat] at read

/-! ## One form -/

theorem spans_of_decodeFrom {left value shift : Nat} {c₁ c₂ : Cursor} {v : UInt32}
    (h : decodeFrom value shift left c₁ = (.ok v, c₂)) :
    ∃ n, v.toNat = value + n <<< shift ∧ (shift = 0 ∨ n ≠ 0) ∧ c₁.Spans (groups left n) c₂ := by
  induction left generalizing value shift c₁ with
  | zero => cases h
  | succ left ih =>
    rcases shape : c₁.rest with _ | ⟨b, bs⟩
    · rw [decodeFrom_end shape] at h
      cases h
    · have step : c₁.Spans [b] ⟨c₁.position + 1, bs⟩ := ⟨shape, rfl⟩
      by_cases last : b < 0x80
      · have small : b.toNat < 0x80 := UInt8.lt_iff_toNat_lt.mp last
        rw [decodeFrom_last shape last] at h
        split at h
        · cases h
        · rename_i shortest
          split at h
          · rename_i range
            obtain ⟨rfl, rfl⟩ := Decoder.pure_eq_ok.mp h
            refine ⟨b.toNat, ?_, ?_, ?_⟩
            · rw [UInt32.toNat_ofNat', Nat.mod_eq_of_lt range]
            · simp only [Bool.and_eq_true, decide_eq_true_eq, beq_iff_eq, not_and,
                ← UInt8.toNat_inj] at shortest
              by_cases zero : shift = 0
              · exact .inl zero
              · exact .inr (shortest zero)
            · rwa [groups_small small, UInt8.ofNat_toNat]
          · cases h
      · have large : 0x80 ≤ b.toNat := by
          rw [UInt8.lt_iff_toNat_lt] at last
          exact Nat.le_of_not_lt last
        have bound : b.toNat < 256 := b.toNat_lt
        rw [decodeFrom_more shape last] at h
        obtain ⟨n, number, nonzero, tail⟩ := ih h
        -- the groups read so far are the low seven bits of `b` and, above them, `n`
        have positive : n ≠ 0 := by omega
        have digit : (b.toNat % 0x80 + n * 0x80) % 0x80 = b.toNat % 0x80 := by omega
        have above : (b.toNat % 0x80 + n * 0x80) / 0x80 = n := by omega
        have byte : 0x80 + b.toNat % 0x80 = b.toNat := by omega
        refine ⟨b.toNat % 0x80 + n * 0x80, ?_, .inr (by omega), ?_⟩
        · rw [number, Nat.add_assoc, ← shift_groups (b.toNat % 0x80 + n * 0x80), digit, above]
        · rw [groups_large (by omega), digit, above, byte, UInt8.ofNat_toNat]
          exact step.append tail

/-- Bytes read as a number are its form. -/
theorem spans_of_decode {n : UInt32} {c₁ c₂ : Cursor} (h : decode c₁ = (.ok n, c₂)) :
    c₁.Spans (encode n) c₂ := by
  obtain ⟨m, number, -, span⟩ := spans_of_decodeFrom h
  rw [Nat.shiftLeft_zero, Nat.zero_add] at number
  rwa [encode, number]

theorem encode_ne_nil (n : UInt32) : encode n ≠ [] := groups_ne_nil 4 n.toNat

end MoveWallet.Wire.Uleb128
