/-
# MoveWallet.Proofs.Base58.Text — bytes and their text in base 58 determine each other

Bytes and text are two spellings of the same thing: a number of leading zeros, and a number.
`spell` writes them out as digits in any base, and nothing is lost in either direction: digits spell
their leading zeros and their number (`spell_zerosBefore`), and these are read off again
(`zerosBefore_spell`, `ofDigits_spell`).  So text is read as the bytes that it was written of
(`read?_write`) and is the only text of what it is read as (`write_of_read?`), and the same holds
with a checksum.
-/
import Mathlib.Data.Nat.Digits.Lemmas
import MoveWallet.Base58
import MoveWallet.Proofs.Text.Reading
import MoveWallet.Proofs.Text.Utf8

namespace MoveWallet.Base58

set_option autoImplicit false

open MoveWallet.Bytes.Endian
open MoveWallet.Digest.Sha2
open MoveWallet.Text
open MoveWallet.Text.Reading

/-! ## Digits -/

section

variable {base : Nat}

/-- Zeros, and the digits of a number with the highest first. -/
def spell (base zeros n : Nat) : List Nat := List.replicate zeros 0 ++ (Nat.digits base n).reverse

def zerosBefore (ds : List Nat) : Nat := (ds.takeWhile (· == 0)).length

theorem ofDigits_eq (ds : List Nat) : ofDigits base ds = Nat.ofDigits base ds.reverse := by
  rw [Nat.ofDigits_eq_foldr, List.foldr_reverse]
  simp only [ofDigits, Nat.cast_id, Nat.add_comm, Nat.mul_comm]

theorem digitsIn_eq_digits (large : 1 < base) {fuel n : Nat} (enough : n < base ^ fuel) :
    digitsIn base fuel n = Nat.digits base n := by
  induction fuel generalizing n with
  | zero =>
    have zero : n = 0 := by simpa using enough
    simp [digitsIn, zero]
  | succ fuel ih =>
    by_cases zero : n = 0
    · simp [digitsIn, zero]
    · have fewer : n / base < base ^ fuel := by
        apply Nat.div_lt_of_lt_mul
        rwa [← Nat.pow_succ']
      rw [digitsIn, if_neg zero, ih fewer, Nat.digits_def' large (Nat.pos_of_ne_zero zero)]

theorem zerosBefore_spell (zeros n : Nat) : zerosBefore (spell base zeros n) = zeros := by
  have allZero : ∀ d ∈ List.replicate zeros 0, (d == 0) = true := by simp
  have stop : (Nat.digits base n).reverse.takeWhile (· == 0) = [] := by
    by_cases zero : n = 0
    · simp [zero]
    · have last := Nat.getLast_digit_ne_zero base zero
      have split := List.dropLast_append_getLast
        (Nat.digits_ne_nil_iff_ne_zero (b := base) |>.mpr zero)
      rw [← split, List.reverse_append, List.reverse_singleton, List.singleton_append]
      exact List.takeWhile_cons_of_neg (by simpa using last)
  rw [zerosBefore, spell, List.takeWhile_append_of_pos allZero, stop, List.append_nil,
    List.length_replicate]

theorem ofDigits_spell (zeros n : Nat) : ofDigits base (spell base zeros n) = n := by
  rw [ofDigits_eq, spell, List.reverse_append, List.reverse_reverse, List.reverse_replicate,
    Nat.ofDigits_append_replicate_zero, Nat.ofDigits_digits]

theorem lt_of_mem_spell (large : 1 < base) {zeros n d : Nat} (h : d ∈ spell base zeros n) : d < base := by
  rcases List.mem_append.mp h with zero | digit
  · rw [List.eq_of_mem_replicate zero]
    omega
  · exact Nat.digits_lt_base large (List.mem_reverse.mp digit)

/-- Digits are spelled again from the zeros before them and their number. -/
theorem spell_zerosBefore (large : 1 < base) {ds : List Nat} (digits : ∀ d ∈ ds, d < base) :
    spell base (zerosBefore ds) (ofDigits base ds) = ds := by
  induction ds with
  | nil => simp [spell, zerosBefore, ofDigits]
  | cons d ds ih =>
    by_cases zero : d = 0
    · subst zero
      have number : ofDigits base (0 :: ds) = ofDigits base ds := by
        rw [ofDigits, List.foldl_cons, Nat.zero_mul]
        rfl
      have zeros : zerosBefore (0 :: ds) = zerosBefore ds + 1 := rfl
      rw [number, zeros, spell, List.replicate_succ, List.cons_append]
      exact congrArg (0 :: ·) (ih fun e member => digits e (List.mem_cons_of_mem 0 member))
    · have zeros : zerosBefore (d :: ds) = 0 := by simp [zerosBefore, zero]
      have below : ∀ e ∈ (d :: ds).reverse, e < base := by
        intro e member
        exact digits e (List.mem_reverse.mp member)
      have number := Nat.digits_ofDigits base large _ below (by simpa using zero)
      rw [zeros, spell, ofDigits_eq, number, List.reverse_reverse]
      rfl

theorem length_spell (zeros n : Nat) :
    (spell base zeros n).length = zeros + (Nat.digits base n).length := by
  simp [spell]

end

/-! ## Characters -/

theorem digit?_digitChar : ∀ d < 58, digit? (digitChar d) = some d := by
  decide

theorem digitChar_ascii : ∀ d < 58, (digitChar d).toNat < 0x80 := by
  decide

theorem digitChar_of_digit? {c : Char} {d : Nat} (h : digit? c = some d) :
    d < 58 ∧ digitChar d = c := by
  obtain ⟨inside, same, -⟩ := List.findIdx?_eq_some_iff_getElem.mp h
  refine ⟨inside, ?_⟩
  rw [digitChar, List.getD_eq_getElem?_getD, List.getElem?_eq_getElem inside]
  exact eq_of_beq same

/-! ## Texts -/

/-- Bytes as digits in base 256. -/
def numbers (bs : List UInt8) : List Nat := bs.map UInt8.toNat

theorem numbers_lt (bs : List UInt8) : ∀ d ∈ numbers bs, d < 256 := by
  intro d member
  obtain ⟨b, -, rfl⟩ := List.mem_map.mp member
  exact b.toNat_lt

theorem ofBigEndian_eq (bs : List UInt8) : ofBigEndian bs = ofDigits 256 (numbers bs) := by
  rw [ofDigits, numbers, List.foldl_map]
  rfl

theorem zerosBefore_numbers (bs : List UInt8) :
    zerosBefore (numbers bs) = (bs.takeWhile (· == 0)).length := by
  rw [zerosBefore, numbers, List.takeWhile_map, List.length_map]
  congr 2
  funext b
  rw [Function.comp_apply, Bool.eq_iff_iff, beq_iff_eq, beq_iff_eq, ← UInt8.toNat_inj]
  rfl

theorem ofDigits_lt {ds : List Nat} {base : Nat} (large : 1 < base) (h : ∀ d ∈ ds, d < base) :
    ofDigits base ds < base ^ ds.length := by
  rw [ofDigits_eq, ← List.length_reverse]
  exact Nat.ofDigits_lt_base_pow_length large fun d member => h d (List.mem_reverse.mp member)

/-- The text of bytes spells their zeros and their number in base 58. -/
theorem toList_write (bs : List UInt8) :
    (write bs).toList =
      (spell 58 (zerosBefore (numbers bs)) (ofDigits 256 (numbers bs))).map digitChar := by
  have bound := ofDigits_lt (by decide) (numbers_lt bs)
  have enough : ofDigits 256 (numbers bs) < 58 ^ (2 * bs.length) := by
    rw [Nat.pow_mul]
    refine Nat.lt_of_lt_of_le bound ?_
    rw [numbers, List.length_map]
    exact Nat.pow_le_pow_left (by decide) _
  rw [write, String.toList_ofList, ofBigEndian_eq, digitsIn_eq_digits (by decide) enough,
    zerosBefore_numbers, spell, List.map_append, List.map_replicate]
  rfl

theorem digits_of_mapM {s : List Char} {ds : List Nat} (digits : s.mapM digit? = some ds) :
    (∀ d ∈ ds, d < 58) ∧ ds.map digitChar = s := by
  constructor
  · exact forall_of_mapM (fun _ _ h => (digitChar_of_digit? h).1) digits
  · have same := map_eq_of_mapM (g := id) (fun _ _ h => (digitChar_of_digit? h).2) digits
    rwa [List.map_id] at same

/-- Text whose characters are digits is read as the bytes that spell its zeros and its number. -/
theorem read?_of_digits {text : String} {ds : List Nat} (digits : text.toList.mapM digit? = some ds) :
    read? text = some ((spell 256 (zerosBefore ds) (ofDigits 58 ds)).map UInt8.ofNat) := by
  obtain ⟨below, -⟩ := digits_of_mapM digits
  have enough : ofDigits 58 ds < 256 ^ ds.length :=
    Nat.lt_of_lt_of_le (ofDigits_lt (by decide) below) (Nat.pow_le_pow_left (by decide) _)
  simp only [read?, digits, Option.bind_eq_bind, Option.bind_some,
    digitsIn_eq_digits (by decide) enough, spell, List.map_append, List.map_replicate]
  rfl

/-- Bytes are read back from their text. -/
theorem read?_write (bs : List UInt8) : read? (write bs) = some bs := by
  have digits : (write bs).toList.mapM digit? =
      some (spell 58 (zerosBefore (numbers bs)) (ofDigits 256 (numbers bs))) := by
    rw [toList_write]
    apply mapM_map_eq_some
    intro d member
    exact digit?_digitChar d (lt_of_mem_spell (by decide) member)
  rw [read?_of_digits digits, zerosBefore_spell, ofDigits_spell,
    spell_zerosBefore (by decide) (numbers_lt bs), numbers, List.map_map]
  exact congrArg some (List.map_id'' (fun b => UInt8.ofNat_toNat) bs)

theorem numbers_map_ofNat {ds : List Nat} (h : ∀ d ∈ ds, d < 256) :
    numbers (ds.map UInt8.ofNat) = ds := by
  rw [numbers, List.map_map]
  refine (List.map_congr_left ?_).trans (List.map_id ds)
  intro d member
  simp [Nat.mod_eq_of_lt (h d member)]

/-- Text is what is written of the bytes that it is read as. -/
theorem write_of_read? {text : String} {bs : List UInt8} (h : read? text = some bs) :
    write bs = text := by
  rcases digits : text.toList.mapM digit? with _ | ds
  · simp [read?, digits] at h
  · obtain ⟨below, characters⟩ := digits_of_mapM digits
    rw [read?_of_digits digits] at h
    cases h
    have bytes : ∀ d ∈ spell 256 (zerosBefore ds) (ofDigits 58 ds), d < 256 :=
      fun d => lt_of_mem_spell (by decide)
    apply String.ext
    rw [toList_write, numbers_map_ofNat bytes, zerosBefore_spell, ofDigits_spell,
      spell_zerosBefore (by decide) below, characters]

example : write [0, 0, 57, 57] = "115Ma" ∧ read? "115Ma" = some [0, 0, 57, 57] := by decide

/-! ## Lengths -/

theorem length_digits_le {low high : Nat} (large : 1 < low) (order : low ≤ high) (n : Nat) :
    (Nat.digits high n).length ≤ (Nat.digits low n).length := by
  rw [Nat.digits_length_le_iff (Nat.lt_of_lt_of_le large order)]
  exact Nat.lt_of_lt_of_le (Nat.lt_base_pow_length_digits large) (Nat.pow_le_pow_left order _)

/-- Text has at least a character and at most two for each byte. -/
theorem length_write (bs : List UInt8) :
    bs.length ≤ (write bs).toList.length ∧ (write bs).toList.length ≤ 2 * bs.length := by
  have bytes := congrArg List.length
    (spell_zerosBefore (by decide) (numbers_lt bs))
  rw [length_spell, numbers, List.length_map, ← numbers] at bytes
  have fewer : (Nat.digits 256 (ofDigits 256 (numbers bs))).length ≤
      (Nat.digits 58 (ofDigits 256 (numbers bs))).length :=
    length_digits_le (by decide) (by decide) _
  have more : (Nat.digits 58 (ofDigits 256 (numbers bs))).length ≤
      2 * (Nat.digits 256 (ofDigits 256 (numbers bs))).length := by
    rw [Nat.digits_length_le_iff (by decide), Nat.pow_mul]
    exact Nat.lt_of_lt_of_le (Nat.lt_base_pow_length_digits (b := 256) (by decide))
      (Nat.pow_le_pow_left (by decide) _)
  rw [toList_write, List.length_map, length_spell]
  omega

theorem byteLength_write (bs : List UInt8) :
    Utf8.byteLength (write bs) = (write bs).toList.length := by
  rw [Utf8.byteLength, Utf8.bytes, Utf8.length_encode_of_ascii]
  rw [toList_write]
  intro c member
  obtain ⟨d, digit, rfl⟩ := List.mem_map.mp member
  exact digitChar_ascii d (lt_of_mem_spell (by decide) digit)

/-! ## Checksum -/

@[simp] theorem length_checksum (bs : List UInt8) : (checksum bs).length = 4 := by
  rw [checksum, doubleSha256, List.length_take, length_sha256]
  rfl

theorem readChecked_writeChecked (bs : List UInt8) : readChecked (writeChecked bs) = .ok bs := by
  have size : (bs ++ checksum bs).length - 4 = bs.length := by simp
  have enough : ¬ (bs ++ checksum bs).length < 4 := by simp
  simp only [readChecked, writeChecked, read?_write, enough, if_false, size, List.drop_left,
    List.take_left, if_true]

/-- Text with a checksum is what is written of the bytes that it is read as. -/
theorem writeChecked_of_readChecked {text : String} {bs : List UInt8}
    (h : readChecked text = .ok bs) : writeChecked bs = text := by
  rcases read : read? text with _ | all
  · simp [readChecked, read] at h
  · simp only [readChecked, read] at h
    by_cases short : all.length < 4
    · simp [short] at h
    · by_cases guarded : all.drop (all.length - 4) = checksum (all.take (all.length - 4))
      · rw [if_neg short, if_pos guarded] at h
        cases h
        rw [writeChecked, ← guarded, List.take_append_drop, write_of_read? read]
      · simp [short, guarded] at h

end MoveWallet.Base58
