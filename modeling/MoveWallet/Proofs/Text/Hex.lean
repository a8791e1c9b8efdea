/-
# MoveWallet.Proofs.Text.Hex — hex text is read back, and is the text of its bytes but for case

* `decode_encode`: the digits of bytes are read as these bytes.
* `encode_of_decode`: text that is read is, in lower case, the digits of what was read.

Text is read byte by byte, and all digits are ASCII, so both follow from the readings of one digit.
-/
import MoveWallet.Proofs.Text.Utf8
import MoveWallet.Text.Hex

namespace MoveWallet.Text.Hex

set_option autoImplicit false

open MoveWallet.Text.Utf8 (asciiChar)

/-! ## One digit -/

/-- The byte of a digit. -/
def digitByte (n : Nat) : UInt8 := UInt8.ofNat (digit n).toNat

theorem digitByte_facts : ∀ n < 16, digitByte n < 0x80 ∧ asciiChar (digitByte n) = digit n ∧
    digitValue? (digitByte n) = some n := by
  decide

/-- A byte that is read as a digit is ASCII, and its character in lower case is the digit. -/
theorem digit_of_digitValue? {b : UInt8} {n : Nat} (h : digitValue? b = some n) :
    n < 16 ∧ b < 0x80 ∧ digit n = (asciiChar b).toLower := by
  have table : ∀ k < 256, (digitValue? (UInt8.ofNat k)).all (fun n =>
      decide (n < 16 ∧ UInt8.ofNat k < 0x80 ∧ digit n = (asciiChar (UInt8.ofNat k)).toLower)) := by
    decide +kernel
  have row := table b.toNat b.toNat_lt
  rw [UInt8.ofNat_toNat, h] at row
  exact of_decide_eq_true row

theorem readDigit_eq_ok {index n : Nat} {b : UInt8} :
    readDigit index b = .ok n ↔ digitValue? b = some n := by
  unfold readDigit
  cases digitValue? b with
  | none => simp
  | some m => simp

theorem toNat_lt_of_isDigit {c : Char} (h : isDigit c = true) : c.toNat < 0x80 := by
  have upTo : ∀ last : Char, c ≤ last → c.toNat ≤ last.toNat := fun _ le => le
  simp only [isDigit, Bool.or_eq_true, Bool.and_eq_true, decide_eq_true_eq] at h
  rcases h with (⟨-, most⟩ | ⟨-, most⟩) | ⟨-, most⟩
  · exact Nat.lt_of_le_of_lt (upTo _ most) (by decide)
  · exact Nat.lt_of_le_of_lt (upTo _ most) (by decide)
  · exact Nat.lt_of_le_of_lt (upTo _ most) (by decide)

/-! ## Bytes -/

/-- The bytes of hex text. -/
def digitBytes (bs : List UInt8) : List UInt8 :=
  bs.flatMap fun b => [digitByte (b.toNat / 16), digitByte (b.toNat % 16)]

theorem digitBytes_cons (b : UInt8) (bs : List UInt8) :
    digitBytes (b :: bs) =
      digitByte (b.toNat / 16) :: digitByte (b.toNat % 16) :: digitBytes bs := rfl

/-- The bytes of hex text are those of the digits of numbers below 16. -/
theorem exists_of_digitBytes {bs : List UInt8} {d : UInt8} (member : d ∈ digitBytes bs) :
    ∃ n < 16, d = digitByte n := by
  obtain ⟨b, -, among⟩ := List.mem_flatMap.mp member
  have bound : b.toNat < 256 := b.toNat_lt
  rcases List.mem_cons.mp among with high | among
  · exact ⟨b.toNat / 16, by omega, high⟩
  · exact ⟨b.toNat % 16, by omega, List.mem_singleton.mp among⟩

theorem ascii_of_digitBytes {d : UInt8} {bs : List UInt8} (h : d ∈ digitBytes bs) : d < 0x80 := by
  obtain ⟨n, small, rfl⟩ := exists_of_digitBytes h
  exact (digitByte_facts n small).1

/-- No digit of hex text ends a line. -/
theorem lineEnd_not_mem_digitBytes (bs : List UInt8) : (10 : UInt8) ∉ digitBytes bs := by
  have other : ∀ n < 16, 10 ≠ digitByte n := by decide
  intro member
  obtain ⟨n, small, same⟩ := exists_of_digitBytes member
  exact other n small same

theorem map_asciiChar_digitBytes (bs : List UInt8) :
    (digitBytes bs).map asciiChar = encodeChars bs := by
  induction bs with
  | nil => rfl
  | cons b bs ih =>
    have bound : b.toNat < 256 := b.toNat_lt
    have high := (digitByte_facts (b.toNat / 16) (by omega)).2.1
    have low := (digitByte_facts (b.toNat % 16) (by omega)).2.1
    rw [digitBytes_cons, List.map_cons, List.map_cons, high, low, ih]
    rfl

theorem bytes_encode (bs : List UInt8) : Utf8.bytes (encode bs) = digitBytes bs := by
  rw [Utf8.bytes, encode, String.toList_ofList, ← map_asciiChar_digitBytes]
  exact Utf8.encode_map_asciiChar fun d => ascii_of_digitBytes

theorem readPairs_digitBytes (index : Nat) (bs : List UInt8) :
    readPairs index (digitBytes bs) = .ok bs := by
  induction bs generalizing index with
  | nil => rfl
  | cons b bs ih =>
    have bound : b.toNat < 256 := b.toNat_lt
    have high : readDigit index (digitByte (b.toNat / 16)) = .ok (b.toNat / 16) :=
      readDigit_eq_ok.mpr (digitByte_facts _ (by omega)).2.2
    have low : readDigit (index + 1) (digitByte (b.toNat % 16)) = .ok (b.toNat % 16) :=
      readDigit_eq_ok.mpr (digitByte_facts _ (by omega)).2.2
    rw [digitBytes_cons, readPairs, high, low, ih]
    show Except.ok (UInt8.ofNat (16 * (b.toNat / 16) + b.toNat % 16) :: bs) = _
    rw [Nat.div_add_mod, UInt8.ofNat_toNat]

theorem digitBytes_injective {bs cs : List UInt8} (h : digitBytes bs = digitBytes cs) : bs = cs := by
  have read := readPairs_digitBytes 0 bs
  rw [h, readPairs_digitBytes 0 cs] at read
  exact (Except.ok.inj read).symm

theorem length_digitBytes (bs : List UInt8) : (digitBytes bs).length = 2 * bs.length := by
  induction bs with
  | nil => rfl
  | cons b bs ih =>
    rw [digitBytes_cons, List.length_cons, List.length_cons, ih, List.length_cons]
    omega

/-- The characters of hex text are the digits of numbers below 16. -/
theorem exists_of_encodeChars {bs : List UInt8} {c : Char} (member : c ∈ encodeChars bs) :
    ∃ n < 16, c = digit n := by
  rw [← map_asciiChar_digitBytes] at member
  obtain ⟨d, among, rfl⟩ := List.mem_map.mp member
  obtain ⟨n, small, rfl⟩ := exists_of_digitBytes among
  exact ⟨n, small, (digitByte_facts n small).2.1⟩

theorem length_encodeChars (bs : List UInt8) : (encodeChars bs).length = 2 * bs.length := by
  rw [← map_asciiChar_digitBytes, List.length_map, length_digitBytes]

theorem toList_marked (ds : List Char) : ("0x" ++ String.ofList ds).toList = '0' :: 'x' :: ds := by
  have digits : (String.ofList ds).toList = ds := String.toList_ofList
  rw [String.toList_append, digits]
  rfl

/-- The digits of as many bytes as are asked for are read as these bytes. -/
theorem decodeFixed_encode {n : Nat} {bs : List UInt8} (size : bs.length = n) :
    decodeFixed n (encode bs) = .ok bs := by
  have even : ¬ (digitBytes bs).length % 2 = 1 := by
    rw [length_digitBytes]
    omega
  have half : ¬ (digitBytes bs).length / 2 ≠ n := by
    rw [length_digitBytes]
    omega
  simp only [decodeFixed, bytes_encode]
  rw [if_neg even, if_neg half, readPairs_digitBytes]

/-- The digits of bytes are read as these bytes. -/
@[simp] theorem decode_encode (bs : List UInt8) : decode (encode bs) = .ok bs := by
  rw [decode, bytes_encode, decodeBytes, if_neg, readPairs_digitBytes]
  rw [length_digitBytes]
  omega

theorem encodeChars_of_readPairs {index : Nat} {text bs : List UInt8}
    (h : readPairs index text = .ok bs) :
    (∀ b ∈ text, b < 0x80) ∧ encodeChars bs = text.map fun b => (asciiChar b).toLower := by
  induction index, text using readPairs.induct generalizing bs with
  | case1 index =>
    cases h
    refine ⟨?_, rfl⟩
    intro b member
    cases member
  | case2 index b => cases h
  | case3 index high low rest ih =>
    rw [readPairs] at h
    rcases first : readDigit index high with e | m
    · rw [first] at h
      cases h
    · rcases second : readDigit (index + 1) low with e | n
      · rw [first, second] at h
        cases h
      · rcases others : readPairs (index + 2) rest with e | tail
        · rw [first, second, others] at h
          cases h
        · rw [first, second, others] at h
          cases h
          obtain ⟨m16, ascii, lowerM⟩ := digit_of_digitValue? (readDigit_eq_ok.mp first)
          obtain ⟨n16, ascii', lowerN⟩ := digit_of_digitValue? (readDigit_eq_ok.mp second)
          obtain ⟨all, characters⟩ := ih others
          refine ⟨?_, ?_⟩
          · intro b member
            rcases List.mem_cons.mp member with rfl | member
            · exact ascii
            · rcases List.mem_cons.mp member with rfl | member
              · exact ascii'
              · exact all b member
          · have byte : (UInt8.ofNat (16 * m + n)).toNat = 16 * m + n := by
              rw [UInt8.toNat_ofNat']
              omega
            have quotient : (16 * m + n) / 16 = m := by omega
            have remainder : (16 * m + n) % 16 = n := by omega
            rw [encodeChars] at characters
            rw [encodeChars, List.flatMap_cons, characters, byte, quotient, remainder, lowerM,
              lowerN]
            rfl

/-- Text that is read as bytes is, in lower case, their digits. -/
theorem encode_of_decode {text : String} {bs : List UInt8} (h : decode text = .ok bs) :
    encode bs = text.toLower := by
  rw [decode, decodeBytes] at h
  split at h
  · cases h
  · obtain ⟨ascii, characters⟩ := encodeChars_of_readPairs h
    have lower : encodeChars bs = (text.toLower).toList := by
      show encodeChars bs = (text.map Char.toLower).toList
      rw [String.toList_map, Utf8.toList_of_ascii ascii, List.map_map]
      exact characters
    rw [encode, lower, String.ofList_toList]

end MoveWallet.Text.Hex
