/-
# MoveWallet.Proofs.Account.AddressText — an address is read from every hex form it is written in

The short form of an address may be one digit, the full form is 64, and both may be read with a
marker in front or without.  What they share is `Spells`: with zeros in front the digits are those
of the address's bytes.  Any such digits are read as the address, so a form of its own for special
addresses costs no proof of its own but the one that it spells them.
-/
import MoveWallet.Account.Address
import MoveWallet.Proofs.Text.Blank
import MoveWallet.Proofs.Text.Separator

namespace MoveWallet.Account

set_option autoImplicit false

open MoveWallet.Text
open MoveWallet.Text.Blank (isBlank trim_of_tight tight_of_forall)
open MoveWallet.Text.Separator

/-- Digits that, with zeros in front up to 64, are those of an address. -/
structure Spells (ds : List Char) (a : Address) : Prop where
  nonempty : ds ≠ []
  digits : List.replicate (64 - ds.length) '0' ++ ds = Hex.encodeChars a.bytes.toList

variable {a : Address} {ds : List Char}

/-! ## Digits -/

/-- A text that begins with a digit does not begin as the bech32m form does. -/
theorem looksLikeBech32_of_isDigit {c : Char} (digit : Hex.isDigit c = true) (s : List Char) :
    Address.looksLikeBech32 (c :: s) = false := by
  have table : ∀ c : Char, c.toNat < 0x80 → Hex.isDigit c = true → 'r' ≠ Bech32.lower c :=
    Utf8.forall_ascii (by decide +kernel)
  have other := table c (Hex.toNat_lt_of_isDigit digit) digit
  have fixed : Address.hrp.toList ++ ['1'] = 'r' :: "ooch1".toList := rfl
  rw [Address.looksLikeBech32, List.map_cons, fixed, dropPrefix?_of_ne other]
  rfl

/-- There is no marker in front of digits alone. -/
theorem stripMarker_of_digits (digits : ds.all Hex.isDigit = true) :
    Address.stripMarker ds = (ds, false) := by
  have absent : ∀ c, Hex.isDigit c = false → c ∉ ds := by
    intro c other member
    rw [List.all_eq_true.mp digits c member] at other
    cases other
  have small : dropPrefix? ['0', 'x'] ds = none :=
    dropPrefix?_eq_none (c := 'x') (by decide) (absent 'x' (by decide))
  have capital : dropPrefix? ['0', 'X'] ds = none :=
    dropPrefix?_eq_none (c := 'X') (by decide) (absent 'X' (by decide))
  rw [Address.stripMarker, small, capital]

/-! ## Forms -/

theorem spells_full (a : Address) : Spells (Hex.encodeChars a.bytes.toList) a := by
  have size : (Hex.encodeChars a.bytes.toList).length = 64 := by
    rw [Hex.length_encodeChars, a.bytes.length_toList]
  refine ⟨?_, ?_⟩
  · rintro none
    rw [none] at size
    cases size
  · rw [size]
    rfl

/-- A special address is 31 zero bytes and one below 16. -/
theorem bytes_of_special (special : a.isSpecial = true) :
    ∃ b : UInt8, b < 16 ∧ a.bytes.toList = List.replicate 31 0 ++ [b] := by
  rw [Address.isSpecial, Bool.and_eq_true, List.all_eq_true, List.all_eq_true] at special
  obtain ⟨zeros, small⟩ := special
  have size := a.bytes.length_toList
  have front : a.bytes.toList.take 31 = List.replicate 31 0 := by
    rw [List.eq_replicate_iff, List.length_take, size]
    exact ⟨rfl, fun b member => beq_iff_eq.mp (zeros b member)⟩
  obtain ⟨b, last⟩ : ∃ b, a.bytes.toList.drop 31 = [b] := by
    rw [← List.length_eq_one_iff, List.length_drop, size]
  refine ⟨b, ?_, ?_⟩
  · rw [last] at small
    exact of_decide_eq_true (small b (List.mem_singleton.mpr rfl))
  · rw [← front, ← last, List.take_append_drop]

theorem spells_special (special : a.isSpecial = true) :
    Spells ((a.bytes.toList.drop 31).map fun b => Hex.digit b.toNat) a := by
  obtain ⟨b, small, bytes⟩ := bytes_of_special special
  have below : b.toNat < 16 := UInt8.lt_iff_toNat_lt.mp small
  have high : b.toNat / 16 = 0 := Nat.div_eq_of_lt below
  have low : b.toNat % 16 = b.toNat := Nat.mod_eq_of_lt below
  have zeros : Hex.encodeChars (List.replicate 31 0) ++ ['0'] = List.replicate 63 '0' := by decide
  have last : Hex.encodeChars [b] = ['0'] ++ [Hex.digit b.toNat] := by
    rw [Hex.encodeChars, List.flatMap_singleton, high, low]
    rfl
  have parts : Hex.encodeChars (List.replicate 31 0 ++ [b]) =
      Hex.encodeChars (List.replicate 31 0) ++ Hex.encodeChars [b] := List.flatMap_append
  rw [bytes]
  refine ⟨by simp, ?_⟩
  rw [bytes, parts, last, ← List.append_assoc, zeros]
  rfl

/-- The short form is the marker and digits that spell the address. -/
theorem exists_of_toHex (a : Address) : ∃ ds, Spells ds a ∧ a.toHex.toList = '0' :: 'x' :: ds := by
  by_cases special : a.isSpecial = true
  · refine ⟨_, spells_special special, ?_⟩
    rw [Address.toHex, if_pos special, Hex.toList_marked]
  · refine ⟨_, spells_full a, ?_⟩
    rw [Address.toHex, if_neg special, Address.toHexLong, Address.digits, Hex.encode, Hex.toList_marked]

namespace Spells

/-! ## Characters -/

theorem digit_of_mem (h : Spells ds a) {c : Char} (member : c ∈ ds) : ∃ n < 16, c = Hex.digit n := by
  have among : c ∈ Hex.encodeChars a.bytes.toList := by
    rw [← h.digits]
    exact List.mem_append_right _ member
  exact Hex.exists_of_encodeChars among

theorem length_le (h : Spells ds a) : ds.length ≤ 64 := by
  have size := congrArg List.length h.digits
  rw [List.length_append, List.length_replicate, Hex.length_encodeChars, a.bytes.length_toList] at size
  omega

theorem isEmpty_eq (h : Spells ds a) : ds.isEmpty = false :=
  List.isEmpty_eq_false_iff.mpr h.nonempty

theorem length_encode (h : Spells ds a) : (Utf8.encode ds).length = ds.length := by
  have ascii : ∀ n < 16, (Hex.digit n).toNat < 0x80 := by decide
  refine Utf8.length_encode_of_ascii ?_
  intro c member
  obtain ⟨n, small, rfl⟩ := h.digit_of_mem member
  exact ascii n small

theorem isBlank_of_mem (h : Spells ds a) {c : Char} (member : c ∈ ds) : isBlank c = false := by
  obtain ⟨n, small, rfl⟩ := h.digit_of_mem member
  exact Blank.isBlank_digit n small

theorem all_isDigit (h : Spells ds a) : ds.all Hex.isDigit = true := by
  have digit : ∀ n < 16, Hex.isDigit (Hex.digit n) = true := by decide
  rw [List.all_eq_true]
  intro c member
  obtain ⟨n, small, rfl⟩ := h.digit_of_mem member
  exact digit n small

/-! ## Reading -/

/-- A text whose digits spell an address is read as that address. -/
theorem ofHexLiteral {text : String} (h : Spells ds a)
    (unmarked : (Address.stripMarker text.toList).1 = ds) : Address.ofHexLiteral text = .ok a := by
  have long : ¬ ds.length > 64 := Nat.not_lt.mpr h.length_le
  have read := Hex.decodeFixed_encode a.bytes.length_toList
  rw [Hex.encode, ← h.digits] at read
  simp only [Address.ofHexLiteral, unmarked, h.length_encode, h.isEmpty_eq, if_neg long, read,
    Bool.false_eq_true, if_false, Address.ofBytes, Bytes.Fixed.FixedBytes.ofList?_toList]

/-- Digits that spell an address are read as that address. -/
theorem parse_digits (h : Spells ds a) : Address.parse (String.ofList ds) = .ok a := by
  have tight := tight_of_forall h.nonempty fun c => h.isBlank_of_mem
  have alone := stripMarker_of_digits h.all_isDigit
  have read : Address.ofHexLiteral (String.ofList ds) = .ok a :=
    h.ofHexLiteral (by rw [String.toList_ofList, alone])
  have other : Address.looksLikeBech32 ds = false := by
    obtain ⟨c, rest, rfl⟩ := List.exists_cons_of_ne_nil h.nonempty
    exact looksLikeBech32_of_isDigit (List.all_eq_true.mp h.all_isDigit c List.mem_cons_self) rest
  simp only [Address.parse, String.toList_ofList, trim_of_tight tight, other, alone,
    h.all_isDigit, h.isEmpty_eq, Bool.false_eq_true, if_false, Bool.not_false, Bool.and_true, Bool.or_true,
    if_true, read]

/-- So are the marker and digits that spell it. -/
theorem parse_marked (h : Spells ds a) :
    Address.parse (String.ofList ('0' :: 'x' :: ds)) = .ok a := by
  have stripped : Address.stripMarker ('0' :: 'x' :: ds) = (ds, true) := rfl
  have tight : Blank.Tight ('0' :: 'x' :: ds) := by
    refine tight_of_forall (List.cons_ne_nil _ _) ?_
    rw [List.forall_mem_cons, List.forall_mem_cons]
    exact ⟨by decide, by decide, fun c => h.isBlank_of_mem⟩
  have read : Address.ofHexLiteral (String.ofList ('0' :: 'x' :: ds)) = .ok a :=
    h.ofHexLiteral (by rw [String.toList_ofList, stripped])
  have other : Address.looksLikeBech32 ('0' :: 'x' :: ds) = false :=
    looksLikeBech32_of_isDigit (by decide) _
  simp only [Address.parse, String.toList_ofList, trim_of_tight tight, other, stripped,
    Bool.false_eq_true, if_false, Bool.true_or, if_true, read]

end Spells

end MoveWallet.Account
