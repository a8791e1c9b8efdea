/-
# MoveWallet.Proofs.Bitcoin.Beginning — how the text of a Bitcoin address begins

The text of a witness address begins with `bc` or `tb`.  The text of any other spells 25 bytes in base
58, and what these begin with is one of four version bytes.  So the number that they denote is known
up to the part behind its first byte, and that leaves few choices for the first two of its digits
(`firstDigits_of_version`): `n` can be first, but then the next digit is one of those before `s`, and
it is not `p`.  So no text begins as another kind of address does (`apart_of_parse`).
-/
import MoveWallet.Proofs.Bech32.Spelling
import MoveWallet.Proofs.Bitcoin.Canonical
import MoveWallet.Proofs.Text.Blank
import MoveWallet.Proofs.Text.Separator

namespace MoveWallet.Base58

set_option autoImplicit false

open MoveWallet.Bech32 (lower)
open MoveWallet.Bytes.Endian
open MoveWallet.Text

/-! ## The first digits of a number -/

section

variable {base : Nat} {rest : List Nat}

theorem ofDigits_append (front rest : List Nat) :
    ofDigits base (front ++ rest) =
      ofDigits base front * base ^ rest.length + ofDigits base rest := by
  rw [ofDigits_eq, List.reverse_append, Nat.ofDigits_append, ← ofDigits_eq, ← ofDigits_eq,
    List.length_reverse, Nat.mul_comm, Nat.add_comm]

/-- The digits in front leave open less than one of their own units. -/
theorem ofDigits_append_bounds (front : List Nat) (large : 1 < base)
    (digits : ∀ d ∈ rest, d < base) :
    ofDigits base front * base ^ rest.length ≤ ofDigits base (front ++ rest) ∧
      ofDigits base (front ++ rest) < (ofDigits base front + 1) * base ^ rest.length := by
  have behind := ofDigits_lt large digits
  rw [ofDigits_append, Nat.add_one_mul]
  omega

end

/-- The first two digits, read as a number, of a number of 25 bytes that begins with a version byte
other than zero. -/
theorem firstDigits_of_version {version first k n : Nat}
    (known : version = 0x05 ∨ version = 0x6F ∨ version = 0xC4)
    (two : 58 ≤ first ∧ first < 58 ^ 2)
    (bytes : version * 256 ^ 24 ≤ n ∧ n < (version + 1) * 256 ^ 24)
    (digits : first * 58 ^ k ≤ n ∧ n < (first + 1) * 58 ^ k) :
    first ≤ 140 ∨ 2590 ≤ first ∧ first ≤ 2613 := by
  have least : ¬ k ≤ 31 := by
    intro short
    have power : 58 ^ k ≤ 58 ^ 31 := Nat.pow_le_pow_right (by decide) short
    have most : (first + 1) * 58 ^ k ≤ 58 ^ 2 * 58 ^ 31 := Nat.mul_le_mul two.2 power
    omega
  have greatest : ¬ 34 ≤ k := by
    intro long
    have power : 58 ^ 34 ≤ 58 ^ k := Nat.pow_le_pow_right (by decide) long
    have least : 58 * 58 ^ 34 ≤ first * 58 ^ k := Nat.mul_le_mul two.1 power
    omega
  obtain rfl | rfl : k = 32 ∨ k = 33 := by omega
  · omega
  · omega

/-! ## The first characters of a text -/

variable {bs : List UInt8} {c : Char}

/-- No digit is blank, and none begins a marker. -/
theorem digitChar_facts : ∀ d < 58, Blank.isBlank (digitChar d) = false ∧ digitChar d ≠ '0' := by
  decide +kernel

theorem exists_digit_of_mem (member : c ∈ (write bs).toList) : ∃ d < 58, digitChar d = c := by
  rw [toList_write] at member
  obtain ⟨d, digit, same⟩ := List.mem_map.mp member
  exact ⟨d, lt_of_mem_spell (by decide) digit, same⟩

/-- The digits that are written in one or the other case as the letters that other addresses begin
with. -/
theorem digits_of_letters : ∀ d < 58,
    (lower (digitChar d) = 'n' → d = 21 ∨ d = 45) ∧ (lower (digitChar d) = 'p' → d = 22 ∨ d = 47) ∧
    (lower (digitChar d) = 'r' → d = 24 ∨ d = 49) ∧ (lower (digitChar d) = 'o' → d = 46) := by
  decide +kernel

/-- If the first digit is not zero, the first two are those of the number that the bytes denote. -/
theorem firstDigits_of_write {version : UInt8} {rest : List UInt8} {d e : Nat} {ds : List Nat}
    (size : rest.length = 24)
    (known : version = 0x00 ∨ version = 0x05 ∨ version = 0x6F ∨ version = 0xC4) (some : d ≠ 0)
    (spelled : spell 58 (zerosBefore (numbers (version :: rest)))
      (ofDigits 256 (numbers (version :: rest))) = d :: e :: ds) :
    d * 58 + e ≤ 140 ∨ 2590 ≤ d * 58 + e ∧ d * 58 + e ≤ 2613 := by
  have small : ∀ f ∈ d :: e :: ds, f < 58 := by
    rw [← spelled]
    exact fun f => lt_of_mem_spell (by decide)
  obtain ⟨firstSmall, secondSmall, others⟩ : d < 58 ∧ e < 58 ∧ ∀ f ∈ ds, f < 58 := by
    rwa [List.forall_mem_cons, List.forall_mem_cons] at small
  have zeros : zerosBefore (numbers (version :: rest)) = 0 := by
    have none : zerosBefore (d :: e :: ds) = 0 := by simp [zerosBefore, some]
    rwa [← spelled, zerosBefore_spell] at none
  have byte : version.toNat = 0x05 ∨ version.toNat = 0x6F ∨ version.toNat = 0xC4 := by
    rcases known with rfl | rfl | rfl | rfl
    · cases zeros
    · exact .inl rfl
    · exact .inr (.inl rfl)
    · exact .inr (.inr rfl)
  have length : (numbers rest).length = 24 := by rw [numbers, List.length_map, size]
  have number : ofDigits 58 ([d, e] ++ ds) = ofDigits 256 ([version.toNat] ++ numbers rest) := by
    rw [List.cons_append, List.singleton_append, ← spelled, ofDigits_spell]
    rfl
  have bytes := ofDigits_append_bounds [version.toNat] (by decide) (numbers_lt rest)
  have digits := ofDigits_append_bounds [d, e] (by decide) others
  rw [← number, length] at bytes
  simp only [ofDigits, List.foldl_cons, List.foldl_nil, Nat.zero_mul, Nat.zero_add] at bytes digits
  exact firstDigits_of_version byte (by omega) bytes digits

/-- The text of 25 bytes that begin with a version byte does not begin as other addresses do. -/
theorem not_begins_of_version {version : UInt8} {rest : List UInt8} (size : rest.length = 24)
    (known : version = 0x00 ∨ version = 0x05 ∨ version = 0x6F ∨ version = 0xC4) {c d : Char}
    (begins : [c, d] <+: (write (version :: rest)).toList.map lower) :
    ¬ (c = 'n' ∧ d = 'p') ∧ ¬ (c = 'r' ∧ d = 'o') := by
  obtain ⟨behind, whole⟩ := begins
  rw [toList_write, List.map_map, eq_comm, List.cons_append, List.cons_append,
    List.map_eq_cons_iff] at whole
  obtain ⟨f, fs, spelled, rfl, others⟩ := whole
  obtain ⟨g, ds, rfl, rfl, -⟩ := List.map_eq_cons_iff.mp others
  have below : ∀ e ∈ f :: g :: ds, e < 58 := by
    rw [← spelled]
    exact fun e => lt_of_mem_spell (by decide)
  have first := digits_of_letters f (below f (by simp))
  have second := digits_of_letters g (below g (by simp))
  constructor
  · rintro ⟨n, p⟩
    have lead := first.1 n
    have next := second.2.1 p
    have range := firstDigits_of_write size known (by omega) spelled
    omega
  · rintro ⟨r, o⟩
    have lead := first.2.2.1 r
    have next := second.2.2.2 o
    have range := firstDigits_of_write size known (by omega) spelled
    omega

end MoveWallet.Base58

namespace MoveWallet.Bitcoin

set_option autoImplicit false

open MoveWallet.Bech32 (Group Variant lower)
open MoveWallet.Bytes.Fixed
open MoveWallet.Text

/-! ## All addresses -/

/-- A text that is taken neither for a Nostr address nor for a native one: it has no blanks round it
and no marker in front, and begins as neither of them does. -/
structure Apart (text : String) : Prop where
  tight : Blank.Tight text.toList
  unmarked : text.toList.head? ≠ some '0'
  notNostr : ¬ "npub".toList <+: text.toList.map lower
  notNative : ¬ "rooch1".toList <+: text.toList.map lower

theorem apart_of_base58 {n : Network} {version : UInt8} {hash : FixedBytes 20}
    (known : version = n.pubkeyByte ∨ version = n.scriptByte) :
    Apart (Base58.writeChecked (version :: hash.toList)) := by
  have size : (hash.toList ++ Base58.checksum (version :: hash.toList)).length = 24 := by
    rw [List.length_append, Base58.length_checksum, hash.length_toList]
  have versions : version = 0x00 ∨ version = 0x05 ∨ version = 0x6F ∨ version = 0xC4 := by
    revert known
    cases n
    all_goals
      rintro (rfl | rfl)
      all_goals decide
  have long := (Base58.length_write (version :: hash.toList ++
    Base58.checksum (version :: hash.toList))).1
  rw [Base58.writeChecked]
  refine ⟨Blank.tight_of_forall ?_ ?_, ?_, ?_, ?_⟩
  · apply List.length_pos_iff.mp
    rw [List.cons_append, List.length_cons, size] at long
    exact Nat.lt_of_lt_of_le (by decide) long
  · intro c member
    obtain ⟨d, small, rfl⟩ := Base58.exists_digit_of_mem member
    exact (Base58.digitChar_facts d small).1
  · intro marker
    obtain ⟨d, small, same⟩ := Base58.exists_digit_of_mem (List.mem_of_head? marker)
    exact (Base58.digitChar_facts d small).2 same
  · intro nostr
    have two : ['n', 'p'] <+: "npub".toList := ⟨"ub".toList, rfl⟩
    exact (Base58.not_begins_of_version size versions (two.trans nostr)).1 ⟨rfl, rfl⟩
  · intro native
    have two : ['r', 'o'] <+: "rooch1".toList := ⟨"och1".toList, rfl⟩
    exact (Base58.not_begins_of_version size versions (two.trans native)).2 ⟨rfl, rfl⟩

theorem apart_of_bech32 {text : String} {v : Variant} {n : Network} {gs : List Group}
    (written : Bech32.write v n.hrp gs = text.toLower) : Apart text := by
  have first : ∀ c rest, c :: rest <+: text.toList.map lower → c = 'b' ∨ c = 't' := by
    intro c rest begins
    obtain ⟨d, front, hrp, letter⟩ :
        ∃ d front, n.hrp.toList = d :: front ∧ (d = 'b' ∨ d = 't') := by
      cases n <;> exact ⟨_, _, rfl, by decide⟩
    rw [← Bech32.toList_toLower, ← written, Bech32.write, String.toList_ofList, hrp,
      List.cons_append] at begins
    rw [(List.cons_prefix_cons.mp begins).1]
    exact letter
  refine ⟨Bech32.tight_of_toLower (hrp_facts n).1 written, ?_, ?_, ?_⟩
  · intro marker
    obtain ⟨rest, whole⟩ := List.head?_eq_some_iff.mp marker
    have zero := first '0' (rest.map lower) (by rw [whole]; exact List.prefix_refl _)
    exact absurd zero (by decide)
  · intro nostr
    exact absurd (first 'n' "pub".toList nostr) (by decide)
  · intro native
    exact absurd (first 'r' "ooch1".toList native) (by decide)

/-- The text of an address is taken for no other address. -/
theorem apart_of_parse {text : String} {hint : Network} {a : Address}
    (h : Address.parse text hint = .ok a) : Apart text := by
  obtain ⟨-, written⟩ := write_of_parse h
  rcases payee : a.payee with hash | hash | ⟨version, program⟩
  · rw [payee, if_neg (by simp [Payee.kind])] at written
    rw [← written]
    exact apart_of_base58 (.inl rfl)
  · rw [payee, if_neg (by simp [Payee.kind])] at written
    rw [← written]
    exact apart_of_base58 (.inr rfl)
  · have witness : (Payee.witness version program).kind = .witness := rfl
    rw [payee, if_pos witness] at written
    exact apart_of_bech32 written

end MoveWallet.Bitcoin
