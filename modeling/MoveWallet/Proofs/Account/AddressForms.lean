/-
# MoveWallet.Proofs.Account.AddressForms — the texts that are read as an address

A text in hex denotes a number (`Denotes`), and is read as the address with the bytes of that number
(`ofHexLiteral_eq_ok_iff`).  A text in bech32m spells the bytes (`ofBech32_eq_ok_iff`).  The first
character of a text in hex is a digit and that of a text in bech32m is not, so no text is both, and
`parse`, which looks at the beginning to choose between them, accepts what either reader accepts
(`parse_eq_ok_iff`).  `text_forms` joins this with the forms in which addresses are written.
-/
import MoveWallet.Proofs.Account.AddressText
import MoveWallet.Proofs.Bech32.Spelling
import MoveWallet.Proofs.Text.HexNumber
import MoveWallet.Proofs.Wire.Answer

namespace MoveWallet.Account.Address

set_option autoImplicit false

open MoveWallet.Bech32 (OneCase spell)
open MoveWallet.Bytes.Endian
open MoveWallet.Bytes.Fixed
open MoveWallet.Text
open MoveWallet.Text.Separator
open MoveWallet.Wire (bind_eq_ok)

variable {text : String} {a : Address} {n : Nat}

/-! ## Numbers -/

theorem ofBytes_eq_ok_iff {bs : List UInt8} : ofBytes bs = .ok a ↔ bs = a.bytes.toList := by
  rw [← FixedBytes.ofList?_eq_some_iff, ofBytes]
  rcases FixedBytes.ofList? 32 bs with _ | b
  · simp
  · cases a
    simp

/-- An address has the bytes of its number. -/
theorem bytes_eq (a : Address) : a.bytes.toList = bigEndian 32 a.toNat := by
  have written := bigEndian_ofBigEndian a.bytes.toList
  rw [a.bytes.length_toList] at written
  exact written.symm

theorem toNat_ofNat (small : n < 256 ^ 32) : (ofNat n).toNat = n := ofBigEndian_bigEndian small

theorem ofNat_toNat (a : Address) : ofNat a.toNat = a := by
  have bytes : (ofNat a.toNat).bytes = a.bytes := FixedBytes.ext (bytes_eq a).symm
  cases a
  exact congrArg mk bytes

/-! ## Hex -/

/-- The digits of a number: 1 to 64 of them, of either case. -/
structure Numeral (ds : List Char) (n : Nat) : Prop where
  nonempty : ds ≠ []
  short : ds.length ≤ 64
  digits : ds.all Hex.isDigit = true
  value : Hex.number ds = n

/-- What may stand in front of the digits. -/
def markers : List (List Char) := [[], ['0', 'x'], ['0', 'X']]

/-- A text denotes a number if it is the digits of the number, with at most one marker in front. -/
def Denotes (text : String) (n : Nat) : Prop :=
  ∃ marker ∈ markers, ∃ ds, text.toList = marker ++ ds ∧ Numeral ds n

theorem Numeral.lt {ds : List Char} (h : Numeral ds n) : n < 256 ^ 32 := by
  have small := Hex.number_lt h.digits
  rw [h.value] at small
  exact Nat.lt_of_lt_of_le small (Nat.pow_le_pow_right (n := 16) (by decide) h.short)

theorem exists_marker (s : List Char) :
    ∃ marker ∈ markers, s = marker ++ (stripMarker s).1 := by
  rcases small : dropPrefix? ['0', 'x'] s with _ | rest
  · rcases capital : dropPrefix? ['0', 'X'] s with _ | rest
    · refine ⟨[], by simp [markers], ?_⟩
      simp [stripMarker, small, capital]
    · refine ⟨['0', 'X'], by simp [markers], ?_⟩
      simp only [stripMarker, small, capital]
      exact dropPrefix?_eq_some.mp capital
  · refine ⟨['0', 'x'], by simp [markers], ?_⟩
    simp only [stripMarker, small]
    exact dropPrefix?_eq_some.mp small

/-- No marker is found in digits, and the one in front of them is. -/
theorem stripMarker_append {marker ds : List Char} (known : marker ∈ markers)
    (digits : ds.all Hex.isDigit = true) : (stripMarker (marker ++ ds)).1 = ds := by
  simp only [markers, List.mem_cons, List.not_mem_nil, or_false] at known
  rcases known with rfl | rfl | rfl
  · rw [List.nil_append, stripMarker_of_digits digits]
  · rfl
  · rfl

theorem denotes_iff : Denotes text n ↔ Numeral (stripMarker text.toList).1 n := by
  constructor
  · rintro ⟨marker, known, ds, whole, numeral⟩
    rw [whole, stripMarker_append known numeral.digits]
    exact numeral
  · intro numeral
    obtain ⟨marker, known, whole⟩ := exists_marker text.toList
    exact ⟨marker, known, _, whole, numeral⟩

/-- A text denotes one number. -/
theorem Denotes.unique {m : Nat} (h : Denotes text m) (h' : Denotes text n) : m = n := by
  rw [← (denotes_iff.mp h).value, (denotes_iff.mp h').value]

/-- What denotes a number begins with the zero of a marker or is digits throughout. -/
theorem Denotes.marked_or_digits (h : Denotes text n) :
    text.toList.head? = some '0' ∨ text.toList ≠ [] ∧ text.toList.all Hex.isDigit = true := by
  obtain ⟨marker, known, ds, whole, numeral⟩ := h
  simp only [markers, List.mem_cons, List.not_mem_nil, or_false] at known
  rw [whole]
  rcases known with rfl | rfl | rfl
  · exact .inr ⟨numeral.nonempty, numeral.digits⟩
  · exact .inl rfl
  · exact .inl rfl

/-- So it begins with a digit. -/
theorem Denotes.exists_digit (h : Denotes text n) :
    ∃ c rest, text.toList = c :: rest ∧ Hex.isDigit c = true := by
  rcases h.marked_or_digits with marked | ⟨nonempty, digits⟩
  · obtain ⟨rest, whole⟩ := List.head?_eq_some_iff.mp marked
    exact ⟨'0', rest, whole, rfl⟩
  · obtain ⟨c, rest, whole⟩ := List.exists_cons_of_ne_nil nonempty
    rw [whole, List.all_cons, Bool.and_eq_true] at digits
    exact ⟨c, rest, whole, digits.1⟩

/-- Zeros are put in front of up to 64 digits, and nothing else is read as 32 bytes. -/
theorem decodeFixed_padded {ds : List Char} {bs : List UInt8} :
    Hex.decodeFixed 32 (String.ofList (List.replicate (64 - ds.length) '0' ++ ds)) = .ok bs ↔
      ds.length ≤ 64 ∧ ds.all Hex.isDigit = true ∧ bigEndian 32 (Hex.number ds) = bs := by
  have zeros : (List.replicate (64 - ds.length) '0').all Hex.isDigit = true := by
    rw [List.all_eq_true]
    intro c member
    rw [List.eq_of_mem_replicate member]
    rfl
  have length : 64 - ds.length + ds.length = 2 * 32 ↔ ds.length ≤ 64 := by omega
  rw [Hex.decodeFixed_eq_ok_iff, String.toList_ofList, Hex.number_zeros_append, List.length_append,
    List.length_replicate, List.all_append, zeros, Bool.true_and, length]

/-- A text in hex is read exactly if it denotes the number of the address. -/
theorem ofHexLiteral_eq_ok_iff : ofHexLiteral text = .ok a ↔ Denotes text a.toNat := by
  rw [denotes_iff, ofHexLiteral]
  generalize (stripMarker text.toList).1 = ds
  have bytes : ds.all Hex.isDigit = true → (Utf8.encode ds).length = ds.length := fun digits =>
    Utf8.length_encode_of_ascii (Hex.ascii_of_digits digits)
  constructor
  · intro h
    by_cases nothing : ds.isEmpty = true
    · rw [if_pos nothing] at h
      cases h
    · by_cases long : (Utf8.encode ds).length > 64
      · rw [if_neg nothing, if_pos long] at h
        cases h
      · rw [if_neg nothing, if_neg long] at h
        split at h
        · rename_i bs read
          obtain ⟨short, digits, rfl⟩ := decodeFixed_padded.mp read
          have numeral : Numeral ds (Hex.number ds) :=
            ⟨by simpa using nothing, short, digits, rfl⟩
          rw [toNat, ← ofBytes_eq_ok_iff.mp h, ofBigEndian_bigEndian numeral.lt]
          exact numeral
        · cases h
  · intro numeral
    have nonempty : ¬ ds.isEmpty = true := by simpa using numeral.nonempty
    have short : ¬ (Utf8.encode ds).length > 64 := by
      rw [bytes numeral.digits]
      exact Nat.not_lt.mpr numeral.short
    have read := decodeFixed_padded.mpr ⟨numeral.short, numeral.digits, rfl⟩
    rw [if_neg nonempty, if_neg short, read]
    apply ofBytes_eq_ok_iff.mpr
    rw [numeral.value, ← bytes_eq]

/-- What denotes a number is read as the address of that number. -/
theorem ofHexLiteral_of_denotes (h : Denotes text n) : ofHexLiteral text = .ok (ofNat n) := by
  rw [ofHexLiteral_eq_ok_iff, toNat_ofNat (denotes_iff.mp h).lt]
  exact h

/-! ## The bech32m form -/

/-- An address is read from the texts that spell its bytes, with any four bits behind them. -/
theorem ofBech32_eq_ok_iff :
    ofBech32 text = .ok a ↔
      OneCase text.toList ∧
        ∃ pad, pad.length = 4 ∧ spell .bech32m hrp a.bytes.toList pad = text.toLower := by
  have read : ofBech32 text = .ok a ↔
      ∃ c, Bech32.read .bech32m text = .ok c ∧ c.hrp = hrp ∧ c.bytes = a.bytes.toList := by
    rw [ofBech32]
    rcases Bech32.read .bech32m text with e | c
    · simp
    · by_cases same : c.hrp = hrp
      · simp [same, ← ofBytes_eq_ok_iff]
      · simp [same]
  rw [read, Bech32.exists_read_iff (by decide) (by decide) a.bytes.length_toList (by decide)]
  simp only [Bech32.leftover_32_iff]

/-- A text in bech32m begins like one. -/
theorem looksLikeBech32_of_ofBech32 (h : ofBech32 text = .ok a) :
    looksLikeBech32 text.toList = true := by
  obtain ⟨-, pad, -, spelled⟩ := ofBech32_eq_ok_iff.mp h
  have characters := congrArg String.toList spelled
  rw [spell, Bech32.write, String.toList_ofList, Bech32.toList_toLower] at characters
  rw [looksLikeBech32, isSome_dropPrefix?, ← characters, List.append_cons]
  exact List.prefix_append _ _

/-- A text in hex does not. -/
theorem not_looksLikeBech32_of_denotes (h : Denotes text n) :
    looksLikeBech32 text.toList = false := by
  obtain ⟨c, rest, whole, digit⟩ := h.exists_digit
  rw [whole]
  exact looksLikeBech32_of_isDigit digit rest

/-- No text is read in both forms. -/
theorem not_both {b : Address} (hex : ofHexLiteral text = .ok a) : ofBech32 text ≠ .ok b := by
  intro read
  have looks := looksLikeBech32_of_ofBech32 read
  rw [not_looksLikeBech32_of_denotes (ofHexLiteral_eq_ok_iff.mp hex)] at looks
  cases looks

/-! ## Either form -/

/-- A text without the blanks round it. -/
def trimmed (text : String) : String := String.ofList (Blank.trim text.toList)

/-- The beginning of a text tells which reader it is for, and neither is kept from what it reads. -/
theorem parse_eq_ok_iff :
    parse text = .ok a ↔ ofHexLiteral (trimmed text) = .ok a ∨ ofBech32 (trimmed text) = .ok a := by
  have characters : (trimmed text).toList = Blank.trim text.toList := String.toList_ofList
  by_cases looks : looksLikeBech32 (Blank.trim text.toList) = true
  · have chosen : parse text = ofBech32 (trimmed text) := by
      simp only [parse, looks, if_true, trimmed]
    have other : ofHexLiteral (trimmed text) ≠ .ok a := by
      intro hex
      have none := not_looksLikeBech32_of_denotes (ofHexLiteral_eq_ok_iff.mp hex)
      rw [characters, looks] at none
      cases none
    rw [chosen]
    simp [other]
  · have other : ofBech32 (trimmed text) ≠ .ok a := by
      intro read
      have begun := looksLikeBech32_of_ofBech32 read
      rw [characters] at begun
      exact looks begun
    have chosen : parse text = .ok a ↔ ofHexLiteral (trimmed text) = .ok a := by
      rcases strip : stripMarker (Blank.trim text.toList) with ⟨ds, marked⟩
      simp only [parse, looks, strip, Bool.false_eq_true, if_false]
      split
      · rfl
      · rename_i refused
        simp only [reduceCtorEq, false_iff]
        intro hex
        have numeral := denotes_iff.mp (ofHexLiteral_eq_ok_iff.mp hex)
        rw [characters, strip] at numeral
        apply refused
        simp [numeral.nonempty, numeral.digits]
    rw [chosen]
    simp [other]

/-! ## Written forms -/

theorem toList_toHexLong (a : Address) :
    a.toHexLong.toList = '0' :: 'x' :: Hex.encodeChars a.bytes.toList := by
  rw [toHexLong, digits, Hex.encode, Hex.toList_marked]

theorem denotes_toHexLong (a : Address) : Denotes a.toHexLong a.toNat := by
  have spells := spells_full a
  refine ⟨['0', 'x'], by simp [markers], Hex.encodeChars a.bytes.toList, toList_toHexLong a, ?_⟩
  exact ⟨spells.nonempty, spells.length_le, spells.all_isDigit,
    Hex.number_encodeChars a.bytes.toList⟩

theorem parse_toHex (a : Address) : parse a.toHex = .ok a := by
  obtain ⟨ds, spells, whole⟩ := exists_of_toHex a
  rw [← String.ofList_toList (s := a.toHex), whole]
  exact spells.parse_marked

theorem parse_toHexLong (a : Address) : parse a.toHexLong = .ok a := by
  rw [← String.ofList_toList (s := a.toHexLong), toList_toHexLong]
  exact (spells_full a).parse_marked

theorem parse_digits (a : Address) : parse a.digits = .ok a := (spells_full a).parse_digits

theorem toHex_injective : Function.Injective toHex := by
  intro a b same
  have read := parse_toHex a
  rw [same, parse_toHex] at read
  exact (Except.ok.inj read).symm

/-- Special addresses are those of the numbers with one digit, and end with that number. -/
theorem toNat_of_special (special : a.isSpecial = true) :
    a.toNat < 16 ∧ (a.bytes.toList.drop 31).map (fun b => Hex.digit b.toNat) =
      [Hex.digit a.toNat] := by
  obtain ⟨b, small, bytes⟩ := bytes_of_special special
  have zeros : ofBigEndian (List.replicate 31 0) = 0 := by decide
  have number : a.toNat = b.toNat := by
    rw [toNat, bytes, ofBigEndian_append_single, zeros, Nat.zero_mul, Nat.zero_add]
  rw [number, bytes]
  exact ⟨UInt8.lt_iff_toNat_lt.mp small, rfl⟩

theorem isSpecial_of_small (small : a.toNat < 16) : a.isSpecial = true := by
  have table : ∀ n < 16, ((bigEndian 32 n).take 31).all (· == 0) = true ∧
      ((bigEndian 32 n).drop 31).all (· < 16) = true := by
    decide +kernel
  have row := table a.toNat small
  rw [← bytes_eq] at row
  rw [isSpecial, row.1, row.2]
  rfl

/-- Numbers with one digit are written with it, and all others with 64. -/
theorem toHex_eq (a : Address) :
    a.toHex =
      if a.toNat < 16 then "0x" ++ String.ofList [Hex.digit a.toNat] else "0x" ++ a.digits := by
  by_cases special : a.isSpecial = true
  · obtain ⟨small, last⟩ := toNat_of_special special
    rw [toHex, if_pos special, last, if_pos small]
  · have large : ¬ a.toNat < 16 := fun small => special (isSpecial_of_small small)
    rw [toHex, if_neg special, toHexLong, if_neg large]

theorem length_digits (a : Address) : a.digits.toList.length = 64 := by
  rw [digits, Hex.encode, String.toList_ofList, Hex.length_encodeChars, a.bytes.length_toList]

theorem ofBech32_toBech32 (a : Address) : ofBech32 a.toBech32 = .ok a := by
  have size : a.bytes.toList.length = 32 := a.bytes.length_toList
  have read : Bech32.read .bech32m a.toBech32 = .ok ⟨hrp, Bech32.groupsOf a.bytes.toList⟩ := by
    refine Bech32.read_write .bech32m (by decide) (by decide) ?_
    rw [Bech32.length_groupsOf, size]
    decide
  simp only [ofBech32, read, if_true, Bech32.Content.bytes, Bech32.bytesOf_groupsOf]
  exact ofBytes_eq_ok_iff.mpr rfl

/-- The capitals of a text in bech32m are read as it is. -/
theorem ofBech32_toUpper (h : ofBech32 text = .ok a) : ofBech32 text.toUpper = .ok a := by
  obtain ⟨-, pad, four, spelled⟩ := ofBech32_eq_ok_iff.mp h
  refine ofBech32_eq_ok_iff.mpr ⟨Bech32.oneCase_toUpper text, pad, four, ?_⟩
  rw [Bech32.toLower_toUpper, spelled]

theorem length_toBech32 (a : Address) : a.toBech32.toList.length = 64 := by
  rw [toBech32, Bech32.writeBytes, Bech32.length_write, Bech32.length_groupsOf,
    a.bytes.length_toList]
  rfl

/-- A text in bech32m has no blanks and is read by `parse` as well. -/
theorem parse_of_ofBech32 (h : ofBech32 text = .ok a) : parse text = .ok a := by
  obtain ⟨-, pad, -, spelled⟩ := ofBech32_eq_ok_iff.mp h
  have tight := Blank.trim_of_tight (Bech32.tight_of_toLower (by decide) spelled)
  rw [parse_eq_ok_iff, trimmed, tight, String.ofList_toList]
  exact .inr h

theorem parse_toBech32 (a : Address) :
    parse a.toBech32 = .ok a ∧ parse a.toBech32.toUpper = .ok a := by
  have read := ofBech32_toBech32 a
  exact ⟨parse_of_ofBech32 read, parse_of_ofBech32 (ofBech32_toUpper read)⟩

/-! ## The 64-digit form of a text -/

theorem normalize_eq_ok_iff {form : String} :
    normalize text = .ok form ↔ ∃ n, Denotes text n ∧ (ofNat n).toHexLong = form := by
  rw [normalize, bind_eq_ok]
  constructor
  · rintro ⟨a, read, made⟩
    refine ⟨a.toNat, ofHexLiteral_eq_ok_iff.mp read, ?_⟩
    rw [ofNat_toNat]
    exact Except.ok.inj made
  · rintro ⟨n, denoted, rfl⟩
    exact ⟨ofNat n, ofHexLiteral_of_denotes denoted, rfl⟩

theorem normalize_idempotent {form : String} (h : normalize text = .ok form) :
    normalize form = .ok form := by
  obtain ⟨n, denoted, rfl⟩ := normalize_eq_ok_iff.mp h
  have again := denotes_toHexLong (ofNat n)
  exact normalize_eq_ok_iff.mpr ⟨_, again, by rw [ofNat_toNat]⟩

/-- Two texts have one form exactly if they denote one number. -/
theorem normalize_eq_iff {s t : String} :
    (∃ form, normalize s = .ok form ∧ normalize t = .ok form) ↔
      ∃ n, Denotes s n ∧ Denotes t n := by
  constructor
  · rintro ⟨form, first, second⟩
    obtain ⟨m, denoted, rfl⟩ := normalize_eq_ok_iff.mp first
    obtain ⟨n, denoted', same⟩ := normalize_eq_ok_iff.mp second
    have read := parse_toHexLong (ofNat n)
    rw [same, parse_toHexLong] at read
    have number := congrArg toNat (Except.ok.inj read)
    rw [toNat_ofNat (denotes_iff.mp denoted).lt, toNat_ofNat (denotes_iff.mp denoted').lt] at number
    exact ⟨m, denoted, number ▸ denoted'⟩
  · rintro ⟨n, denoted, denoted'⟩
    exact ⟨_, normalize_eq_ok_iff.mpr ⟨n, denoted, rfl⟩, normalize_eq_ok_iff.mpr ⟨n, denoted', rfl⟩⟩

/-! ## All forms -/

/-- Text in hex is read as the address of the one number that it denotes, and `parse` reads, without
the blanks round it, what is read in hex and what is read in bech32m; no text is both.  All written forms
of an address are read as it.  The short one is one digit for numbers below 16 and all 64 for others,
and tells addresses apart.  The 64-digit form of a text is its own, and two texts share it exactly if
they denote one number. -/
theorem text_forms :
    (∀ (text : String) (a : Address), ofHexLiteral text = .ok a ↔
      ∃ n < 256 ^ 32, Denotes text n ∧ a.bytes.toList = bigEndian 32 n) ∧
    (∀ (text : String) (m n : Nat), Denotes text m → Denotes text n → m = n) ∧
    (∀ (text : String) (a : Address), parse text = .ok a ↔
      ofHexLiteral (trimmed text) = .ok a ∨ ofBech32 (trimmed text) = .ok a) ∧
    (∀ (text : String) (a b : Address), ofHexLiteral text = .ok a → ofBech32 text ≠ .ok b) ∧
    (∀ a : Address, parse a.toHex = .ok a ∧ parse a.toHexLong = .ok a ∧ parse a.digits = .ok a ∧
      parse a.toBech32 = .ok a ∧ parse a.toBech32.toUpper = .ok a ∧
      a.toBech32.toList.length ≤ Bech32.maxLength) ∧
    (∀ a : Address, a.toHex =
        (if a.toNat < 16 then "0x" ++ String.ofList [Hex.digit a.toNat] else "0x" ++ a.digits) ∧
      a.digits.toList.length = 64) ∧
    Function.Injective toHex ∧
    (∀ text form : String, normalize text = .ok form → normalize form = .ok form) ∧
    (∀ s t : String, (∃ form, normalize s = .ok form ∧ normalize t = .ok form) ↔
      ∃ n, Denotes s n ∧ Denotes t n) := by
  refine ⟨?_, ?_, ?_, ?_, ?_, ?_, toHex_injective, ?_, ?_⟩
  · intro text a
    rw [ofHexLiteral_eq_ok_iff]
    constructor
    · intro denoted
      exact ⟨a.toNat, (denotes_iff.mp denoted).lt, denoted, bytes_eq a⟩
    · rintro ⟨n, small, denoted, bytes⟩
      have number : a.toNat = n := by
        rw [toNat, bytes, ofBigEndian_bigEndian small]
      rw [number]
      exact denoted
  · intro text m n
    exact Denotes.unique
  · intro text a
    exact parse_eq_ok_iff
  · intro text a b
    exact not_both
  · intro a
    obtain ⟨small, capital⟩ := parse_toBech32 a
    refine ⟨parse_toHex a, parse_toHexLong a, parse_digits a, small, capital, ?_⟩
    rw [length_toBech32]
    decide
  · intro a
    exact ⟨toHex_eq a, length_digits a⟩
  · intro text form
    exact normalize_idempotent
  · intro s t
    exact normalize_eq_iff

/-- Fifteen in two texts, which have one 64-digit form, and its capitals in bech32m. -/
theorem text_forms_of_fifteen :
    (∃ form, normalize "0X0f" = .ok form ∧ normalize "F" = .ok form) ∧
    ofBech32 "0X0f" ≠ .ok zero ∧
    (ofNat 15).toHex = "0xf" ∧
    parse (ofNat 15).toBech32.toUpper = .ok (ofNat 15) := by
  obtain ⟨hex, -, -, apart, forms, short, -, -, same⟩ := text_forms
  have marked : Denotes "0X0f" 15 :=
    ⟨['0', 'X'], by decide, ['0', 'f'], rfl, by decide, by decide, by decide, by decide⟩
  have alone : Denotes "F" 15 :=
    ⟨[], by decide, ['F'], rfl, by decide, by decide, by decide, by decide⟩
  have number : (ofNat 15).toNat = 15 := toNat_ofNat (by decide)
  refine ⟨(same _ _).mpr ⟨15, marked, alone⟩, ?_, ?_, (forms (ofNat 15)).2.2.2.2.1⟩
  · apply apart _ (ofNat 15)
    exact (hex _ _).mpr ⟨15, by decide, marked, rfl⟩
  · rw [(short (ofNat 15)).1, number]
    rfl

end MoveWallet.Account.Address
