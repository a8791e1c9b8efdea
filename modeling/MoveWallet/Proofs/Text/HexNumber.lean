/-
# MoveWallet.Proofs.Text.HexNumber — hex digits as a number

A text of hex digits denotes a number, whatever the case of its letters and however many zeros stand
in front.  `decodeFixed_eq_ok_iff` says that text for a given number of bytes is read exactly if it
has twice as many digits, and then as the bytes of that number; `decode_eq_ok_iff` says that text for
any number of bytes is read exactly if it is, in lower case, their digits.
-/
import MoveWallet.Proofs.Bytes.Endian
import MoveWallet.Proofs.Text.Hex

namespace MoveWallet.Text.Hex

set_option autoImplicit false

open MoveWallet.Bytes.Endian
open MoveWallet.Text.Utf8 (asciiChar)

/-! ## Digits of either case -/

/-- The number that a digit of either case stands for. -/
def digitNumber (c : Char) : Nat :=
  if c ≤ '9' then c.toNat - 48 else if c ≤ 'F' then c.toNat - 55 else c.toNat - 87

/-- Digits are told from other ASCII characters, and read, whatever their case. -/
theorem isDigit_facts {c : Char} (ascii : c.toNat < 0x80) :
    isDigit c.toLower = isDigit c ∧
      (isDigit c = true → digitNumber c < 16 ∧ digitNumber c.toLower = digitNumber c ∧
        (digitValue? (UInt8.ofNat c.toNat)).isSome = true) := by
  have table : ∀ n < 0x80, isDigit (Char.ofNat n).toLower = isDigit (Char.ofNat n) ∧
      (isDigit (Char.ofNat n) = true → digitNumber (Char.ofNat n) < 16 ∧
        digitNumber (Char.ofNat n).toLower = digitNumber (Char.ofNat n) ∧
        (digitValue? (UInt8.ofNat n)).isSome = true) := by
    decide +kernel
  have row := table c.toNat ascii
  rw [Char.ofNat_toNat] at row
  exact row

theorem digit_facts : ∀ n < 16, isDigit (digit n) = true ∧ digitNumber (digit n) = n := by
  decide

theorem digitNumber_lt {c : Char} (h : isDigit c = true) : digitNumber c < 16 :=
  ((isDigit_facts (toNat_lt_of_isDigit h)).2 h).1

theorem isDigit_of_encodeChars {bs : List UInt8} {c : Char} (member : c ∈ encodeChars bs) :
    isDigit c = true := by
  obtain ⟨n, small, rfl⟩ := exists_of_encodeChars member
  exact (digit_facts n small).1

/-! ## Numbers -/

/-- The number that digits denote, the highest first. -/
def number (ds : List Char) : Nat := ds.foldl (fun n c => 16 * n + digitNumber c) 0

theorem number_append_single (ds : List Char) (c : Char) :
    number (ds ++ [c]) = 16 * number ds + digitNumber c := by
  rw [number, List.foldl_append]
  rfl

/-- Zeros in front do not count. -/
theorem number_zeros_append (zeros : Nat) (ds : List Char) :
    number (List.replicate zeros '0' ++ ds) = number ds := by
  induction zeros with
  | zero => rfl
  | succ zeros ih => exact ih

theorem number_lt {ds : List Char} (digits : ds.all isDigit = true) :
    number ds < 16 ^ ds.length := by
  -- the last digit is the least significant, so the induction is from the end
  induction ds using List.reverseRecOn with
  | nil => exact Nat.one_pos
  | append_singleton ds c ih =>
    rw [List.all_append, Bool.and_eq_true, List.all_cons, List.all_nil, Bool.and_true] at digits
    have front := ih digits.1
    have low := digitNumber_lt digits.2
    rw [number_append_single, List.length_append, List.length_singleton, Nat.pow_succ]
    omega

theorem number_map_toLower {ds : List Char} (digits : ds.all isDigit = true) :
    number (ds.map Char.toLower) = number ds := by
  induction ds using List.reverseRecOn with
  | nil => rfl
  | append_singleton ds c ih =>
    rw [List.all_append, Bool.and_eq_true, List.all_cons, List.all_nil, Bool.and_true] at digits
    have low := ((isDigit_facts (toNat_lt_of_isDigit digits.2)).2 digits.2).2.1
    rw [List.map_append, List.map_singleton, number_append_single, number_append_single,
      ih digits.1, low]

/-- The digits of bytes denote the number of the bytes. -/
theorem number_encodeChars (bs : List UInt8) : number (encodeChars bs) = ofBigEndian bs := by
  induction bs using List.reverseRecOn with
  | nil => rfl
  | append_singleton bs b ih =>
    have bound : b.toNat < 256 := b.toNat_lt
    have high := (digit_facts (b.toNat / 16) (by omega)).2
    have low := (digit_facts (b.toNat % 16) (by omega)).2
    have parts : encodeChars (bs ++ [b]) =
        encodeChars bs ++ [digit (b.toNat / 16)] ++ [digit (b.toNat % 16)] := by
      rw [encodeChars, List.flatMap_append, List.append_assoc]
      rfl
    rw [parts, number_append_single, number_append_single, high, low, ih,
      ofBigEndian_append_single]
    omega

/-! ## Reading -/

/-- Digits are read two by two. -/
theorem exists_of_digits {index : Nat} {text : List UInt8} (even : text.length % 2 = 0)
    (digits : ∀ b ∈ text, (digitValue? b).isSome = true) : ∃ bs, readPairs index text = .ok bs := by
  induction index, text using readPairs.induct with
  | case1 index => exact ⟨[], rfl⟩
  | case2 index b => cases even
  | case3 index high low rest ih =>
    rw [List.forall_mem_cons, List.forall_mem_cons] at digits
    obtain ⟨first, second, others⟩ := digits
    obtain ⟨m, first⟩ := Option.isSome_iff_exists.mp first
    obtain ⟨n, second⟩ := Option.isSome_iff_exists.mp second
    have shorter : rest.length % 2 = 0 := by
      rw [List.length_cons, List.length_cons] at even
      omega
    obtain ⟨bs, read⟩ := ih shorter others
    refine ⟨UInt8.ofNat (16 * m + n) :: bs, ?_⟩
    rw [readPairs, readDigit_eq_ok.mpr first, readDigit_eq_ok.mpr second, read]
    rfl

theorem ascii_of_digits {s : List Char} (digits : s.all isDigit = true) :
    ∀ c ∈ s, c.toNat < 0x80 := fun c member =>
  toNat_lt_of_isDigit (List.all_eq_true.mp digits c member)

/-- Text of an even number of digits is read. -/
theorem exists_of_allDigits (index : Nat) {text : String}
    (digits : text.toList.all isDigit = true) (even : text.toList.length % 2 = 0) :
    (Utf8.bytes text).length = text.toList.length ∧
      ∃ bs, readPairs index (Utf8.bytes text) = .ok bs := by
  have bytes : Utf8.bytes text = text.toList.map fun c => UInt8.ofNat c.toNat :=
    Utf8.encode_of_ascii (ascii_of_digits digits)
  rw [bytes, List.length_map]
  refine ⟨rfl, exists_of_digits ?_ ?_⟩
  · rw [List.length_map, even]
  · intro b member
    obtain ⟨c, among, rfl⟩ := List.mem_map.mp member
    have digit := List.all_eq_true.mp digits c among
    exact ((isDigit_facts (toNat_lt_of_isDigit digit)).2 digit).2.2

/-- Text that is read is digits, and in lower case those of the bytes. -/
theorem digits_of_readPairs {index : Nat} {text : String} {bs : List UInt8}
    (h : readPairs index (Utf8.bytes text) = .ok bs) :
    (Utf8.bytes text).length = text.toList.length ∧ text.toList.all isDigit = true ∧
      text.toList.map Char.toLower = encodeChars bs := by
  obtain ⟨ascii, characters⟩ := encodeChars_of_readPairs h
  have whole := Utf8.toList_of_ascii ascii
  have lower : text.toList.map Char.toLower = encodeChars bs := by
    rw [whole, List.map_map]
    exact characters.symm
  refine ⟨?_, ?_, lower⟩
  · rw [whole, List.length_map]
  · rw [List.all_eq_true]
    intro c member
    have small : c.toLower ∈ encodeChars bs := by
      rw [← lower]
      exact List.mem_map_of_mem member
    rw [whole] at member
    obtain ⟨b, among, rfl⟩ := List.mem_map.mp member
    rw [← (isDigit_facts (Utf8.toNat_asciiChar_lt (ascii b among))).1]
    exact isDigit_of_encodeChars small

theorem exists_of_decodeFixed {n : Nat} {text : String} (digits : text.toList.all isDigit = true)
    (size : text.toList.length = 2 * n) : ∃ bs, decodeFixed n text = .ok bs := by
  obtain ⟨length, bs, read⟩ := exists_of_allDigits 0 digits (by omega)
  have even : ¬ (Utf8.bytes text).length % 2 = 1 := by omega
  have half : ¬ (Utf8.bytes text).length / 2 ≠ n := by omega
  rw [decodeFixed, if_neg even, if_neg half]
  exact ⟨bs, read⟩

/-- Text that is read has as many digits as are asked for, and denotes the number of the bytes. -/
theorem digits_of_decodeFixed {n : Nat} {text : String} {bs : List UInt8}
    (h : decodeFixed n text = .ok bs) :
    text.toList.length = 2 * n ∧ text.toList.all isDigit = true ∧
      bigEndian n (number text.toList) = bs := by
  by_cases even : (Utf8.bytes text).length % 2 = 1
  · rw [decodeFixed, if_pos even] at h
    cases h
  by_cases half : (Utf8.bytes text).length / 2 ≠ n
  · rw [decodeFixed, if_neg even, if_pos half] at h
    cases h
  rw [decodeFixed, if_neg even, if_neg half] at h
  obtain ⟨length, digits, lower⟩ := digits_of_readPairs h
  have size : bs.length = n := by
    have twice := congrArg List.length lower
    rw [List.length_map, length_encodeChars] at twice
    omega
  refine ⟨by omega, digits, ?_⟩
  rw [← number_map_toLower digits, lower, number_encodeChars, ← size, bigEndian_ofBigEndian]

/-- Text for `n` bytes is read if it has `2 * n` digits of either case, as the bytes of the number
that they denote. -/
theorem decodeFixed_eq_ok_iff {n : Nat} {text : String} {bs : List UInt8} :
    decodeFixed n text = .ok bs ↔
      text.toList.length = 2 * n ∧ text.toList.all isDigit = true ∧
        bigEndian n (number text.toList) = bs := by
  constructor
  · exact digits_of_decodeFixed
  · rintro ⟨size, digits, rfl⟩
    obtain ⟨bs, read⟩ := exists_of_decodeFixed digits size
    rw [(digits_of_decodeFixed read).2.2, read]

theorem encodeChars_injective : Function.Injective encodeChars := by
  intro bs cs same
  have read := decode_encode bs
  rw [encode, same, ← encode, decode_encode] at read
  exact (Except.ok.inj read).symm

/-- Text is read as the bytes whose digits it is, in either case. -/
theorem decode_eq_ok_iff {text : String} {bs : List UInt8} :
    decode text = .ok bs ↔
      text.toList.all isDigit = true ∧ text.toList.map Char.toLower = encodeChars bs := by
  constructor
  · intro h
    rw [decode, decodeBytes] at h
    split_ifs at h
    exact (digits_of_readPairs h).2
  · rintro ⟨digits, lower⟩
    have size := congrArg List.length lower
    rw [List.length_map, length_encodeChars] at size
    obtain ⟨length, cs, read⟩ := exists_of_allDigits 0 digits (by omega)
    have even : ¬ (Utf8.bytes text).length % 2 = 1 := by omega
    rw [decode, decodeBytes, if_neg even, read]
    have lower' := (digits_of_readPairs read).2.2
    exact congrArg Except.ok (encodeChars_injective (lower'.symm.trans lower))

end MoveWallet.Text.Hex
