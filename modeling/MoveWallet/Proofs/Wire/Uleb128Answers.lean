/-
# MoveWallet.Proofs.Wire.Uleb128Answers — what the reader of a number makes of any bytes

The first five bytes decide.  Either they begin with the form of a number, or the first byte
without its high bit is a zero behind others, or there are too many bits, or the bytes end inside a
number (`Front`).  A run of bytes with the high bit set takes the reader to the place behind it with
their low bits in hand (`decodeFrom_run`), so every case is one step from there; that no bytes are
of two kinds follows from the answers being different (`Front.answer_injective`).
-/
import Mathlib.Data.Nat.Digits.Lemmas
import Mathlib.Data.Nat.Log
import MoveWallet.Proofs.Wire.Uleb128

namespace MoveWallet.Wire.Uleb128

set_option autoImplicit false

/-! ## The length of the form -/

theorem length_groups {left n : Nat} (fits : n < 0x80 ^ (left + 1)) :
    (groups (left + 1) n).length = Nat.log 0x80 n + 1 := by
  induction left generalizing n with
  | zero =>
    have small : n < 0x80 := by rwa [Nat.zero_add, Nat.pow_one] at fits
    rw [groups_small small, Nat.log_of_lt small]
    rfl
  | succ left ih =>
    by_cases small : n < 0x80
    · rw [groups_small small, Nat.log_of_lt small]
      rfl
    · have above : n / 0x80 < 0x80 ^ (left + 1) := by
        rw [Nat.pow_succ] at fits
        exact Nat.div_lt_of_lt_mul (by rwa [Nat.mul_comm])
      rw [groups_large small, List.length_cons, ih above,
        Nat.log_of_one_lt_of_le (by decide) (Nat.le_of_not_lt small)]

theorem encodedLength_eq (n : UInt32) : encodedLength n = Nat.log 0x80 n.toNat + 1 := by
  have bound : n.toNat < 0x80 ^ 5 := Nat.lt_trans n.toNat_lt (by decide)
  unfold encodedLength
  split_ifs with one two three four
  · rw [Nat.log_of_lt one]
  · rw [Nat.log_eq_of_pow_le_of_lt_pow (m := 1) (by omega) (by omega)]
  · rw [Nat.log_eq_of_pow_le_of_lt_pow (m := 2) (by omega) (by omega)]
  · rw [Nat.log_eq_of_pow_le_of_lt_pow (m := 3) (by omega) (by omega)]
  · rw [Nat.log_eq_of_pow_le_of_lt_pow (m := 4) (by omega) bound]

theorem length_encode (n : UInt32) : (encode n).length = encodedLength n := by
  have fits : n.toNat < 0x80 ^ maxBytes := Nat.lt_trans n.toNat_lt (by decide)
  rw [encode, encodedLength_eq]
  exact length_groups fits

theorem encodedLength_bounds (n : UInt32) : 1 ≤ encodedLength n ∧ encodedLength n ≤ maxBytes := by
  unfold encodedLength maxBytes
  split_ifs <;> omega

/-! ## A run of bytes with the high bit -/

/-- The number in the low seven bits of bytes. -/
def lowBits (bs : List UInt8) : Nat := Nat.ofDigits 0x80 (bs.map (·.toNat % 0x80))

theorem lowBits_cons (b : UInt8) (bs : List UInt8) :
    lowBits (b :: bs) = b.toNat % 0x80 + 0x80 * lowBits bs := by
  rw [lowBits, List.map_cons, Nat.ofDigits_cons]
  rfl

theorem lowBits_lt (bs : List UInt8) : lowBits bs < 0x80 ^ bs.length := by
  have digits : ∀ d ∈ bs.map (·.toNat % 0x80), d < 0x80 := by
    intro d member
    obtain ⟨b, -, rfl⟩ := List.mem_map.mp member
    exact Nat.mod_lt _ (by decide)
  have bound := Nat.ofDigits_lt_base_pow_length (by decide : 1 < 0x80) digits
  rwa [List.length_map] at bound

/-- Bytes with the high bit are passed and leave their low bits. -/
theorem decodeFrom_run {value shift left : Nat} {c c' : Cursor} {run : List UInt8}
    (h : c.Spans run c') (more : ∀ b ∈ run, 0x80 ≤ b) :
    decodeFrom value shift (run.length + left) c =
      decodeFrom (value + lowBits run <<< shift) (shift + 7 * run.length) left c' := by
  induction run generalizing value shift c with
  | nil =>
    rw [h.eq_of_nil]
    simp [lowBits]
  | cons b run ih =>
    rw [List.forall_mem_cons] at more
    obtain ⟨high, others⟩ := more
    have number : (b.toNat % 0x80) <<< shift + lowBits run <<< (shift + 7) =
        lowBits (b :: run) <<< shift := by
      simp only [lowBits_cons, Nat.shiftLeft_eq, Nat.pow_add]
      ring
    have count : run.length + 1 + left = run.length + left + 1 := by omega
    have place : shift + 7 + 7 * run.length = shift + 7 * (run.length + 1) := by omega
    rw [List.length_cons, count, decodeFrom_more h.rest_cons (UInt8.not_lt.mpr high),
      ih h.tail others, Nat.add_assoc, number, place]

/-- Behind a run of bytes with the high bit the reader stands with their low bits in hand. -/
theorem decode_run {left : Nat} {c c' : Cursor} {run : List UInt8} (h : c.Spans run c')
    (more : ∀ b ∈ run, 0x80 ≤ b) (count : run.length + left = maxBytes) :
    decode c = decodeFrom (lowBits run) (7 * run.length) left c' := by
  rw [decode, ← count, decodeFrom_run h more, Nat.shiftLeft_zero, Nat.zero_add, Nat.zero_add]

/-! ## The first byte without the high bit -/

/-- The first of some bytes without the high bit is `b`, behind `i` others. -/
structure EndsAt (bs : List UInt8) (i : Nat) (b : UInt8) : Prop where
  found : bs[i]? = some b
  last : b < 0x80
  before : ∀ g ∈ bs.take i, 0x80 ≤ g

/-- Of a number of first bytes one is the first without the high bit, or all have it, or there are
fewer bytes and all have it. -/
theorem endsAt_or_run (left : Nat) (bs : List UInt8) :
    (∃ i b, i < left ∧ EndsAt bs i b) ∨ (left ≤ bs.length ∧ ∀ b ∈ bs.take left, 0x80 ≤ b) ∨
      (bs.length < left ∧ ∀ b ∈ bs, 0x80 ≤ b) := by
  induction left generalizing bs with
  | zero => exact .inr (.inl ⟨Nat.zero_le _, by simp⟩)
  | succ left ih =>
    cases bs with
    | nil => exact .inr (.inr ⟨Nat.succ_pos left, by simp⟩)
    | cons b bs =>
      by_cases last : b < 0x80
      · exact .inl ⟨0, b, Nat.succ_pos left, rfl, last, by simp⟩
      · have high : 0x80 ≤ b := UInt8.not_lt.mp last
        rcases ih bs with ⟨i, e, below, found, ends, before⟩ | ⟨enough, run⟩ | ⟨short, run⟩
        · refine .inl ⟨i + 1, e, by omega, found, ends, ?_⟩
          rw [List.take_succ_cons, List.forall_mem_cons]
          exact ⟨high, before⟩
        · refine .inr (.inl ⟨by rw [List.length_cons]; omega, ?_⟩)
          rw [List.take_succ_cons, List.forall_mem_cons]
          exact ⟨high, run⟩
        · refine .inr (.inr ⟨by rw [List.length_cons]; omega, ?_⟩)
          rw [List.forall_mem_cons]
          exact ⟨high, run⟩

theorem EndsAt.eq_append {bs : List UInt8} {i : Nat} {b : UInt8} (h : EndsAt bs i b) :
    i < bs.length ∧ bs = bs.take i ++ b :: bs.drop (i + 1) := by
  obtain ⟨inside, byte⟩ := List.getElem?_eq_some_iff.mp h.found
  refine ⟨inside, ?_⟩
  rw [← byte, ← List.drop_eq_getElem_cons inside, List.take_append_drop]

/-! ## What the first bytes are -/

/-- The first byte without the high bit is a zero behind others, so there is a shorter form. -/
def Padded (bs : List UInt8) : Prop := ∃ i, 1 ≤ i ∧ i ≤ 4 ∧ EndsAt bs i 0

/-- Five bytes with the high bit, or a fifth that ends the number with more than four bits. -/
def Excessive (bs : List UInt8) : Prop :=
  (5 ≤ bs.length ∧ ∀ b ∈ bs.take 5, 0x80 ≤ b) ∨ ∃ b, EndsAt bs 4 b ∧ 0x10 ≤ b ∧ b ≤ 0x7F

/-- Fewer than five bytes, all with the high bit, so the number goes on behind the last. -/
def CutShort (bs : List UInt8) : Prop := bs.length < 5 ∧ ∀ b ∈ bs, 0x80 ≤ b

/-- What the first bytes of a buffer are to the reader of a number. -/
inductive Front where
  | number (n : UInt32)
  | padded
  | excessive
  | cutShort

/-- The bytes that are so. -/
def Front.Of : Front → List UInt8 → Prop
  | .number n, bs => encode n <+: bs
  | .padded, bs => Padded bs
  | .excessive, bs => Excessive bs
  | .cutShort, bs => CutShort bs

/-- What the reader says of them. -/
def Front.answer : Front → Except WireError UInt32
  | .number n => .ok n
  | .padded => .error .nonCanonicalUleb128
  | .excessive => .error .uleb128Overflow
  | .cutShort => .error (.truncated 1 0)

theorem Front.answer_injective : Function.Injective Front.answer := by
  intro f g same
  cases f <;> cases g <;> cases same <;> rfl

/-! ## What the reader makes of them -/

/-- Where a byte without the high bit comes in time, the reader stops behind it. -/
theorem decode_of_endsAt {c : Cursor} {i : Nat} {b : UInt8} (h : EndsAt c.rest i b)
    (inTime : i < maxBytes) :
    decode c = (if 7 * i ≠ 0 && b == 0 then Decoder.fail .nonCanonicalUleb128
      else if lowBits (c.rest.take i) + b.toNat <<< (7 * i) < UInt32.size then
        pure (UInt32.ofNat (lowBits (c.rest.take i) + b.toNat <<< (7 * i)))
      else Decoder.fail .uleb128Overflow) (c.skip (i + 1)) := by
  obtain ⟨inside, bytes⟩ := h.eq_append
  have size : (c.rest.take i).length = i := List.length_take_of_le (Nat.le_of_lt inside)
  have run : c.Spans (c.rest.take i) ⟨c.position + i, b :: c.rest.drop (i + 1)⟩ :=
    ⟨bytes, by rw [size]⟩
  obtain ⟨left, count⟩ : ∃ left, i + (left + 1) = maxBytes := ⟨maxBytes - i - 1, by omega⟩
  rw [decode_run run h.before (by rw [size, count]), size, decodeFrom_last rfl h.last]
  rfl

theorem decode_of_padded {c : Cursor} (h : Padded c.rest) :
    (decode c).1 = .error .nonCanonicalUleb128 := by
  obtain ⟨i, behind, inTime, ends⟩ := h
  have shifted : (7 * i ≠ 0 && (0 : UInt8) == 0) = true := by simp; omega
  rw [decode_of_endsAt ends (by rw [maxBytes]; omega), if_pos shifted]
  rfl

theorem decode_of_excessive {c : Cursor} (h : Excessive c.rest) :
    (decode c).1 = .error .uleb128Overflow := by
  rcases h with ⟨enough, high⟩ | ⟨b, ends, excess, -⟩
  · have run := Cursor.spans_skip_iff.mpr ⟨enough, rfl⟩
    have count : (c.rest.take 5).length + 0 = maxBytes := List.length_take_of_le enough
    rw [decode_run run high count]
    rfl
  · have large : 0x10 ≤ b.toNat := UInt8.le_iff_toNat_le.mp excess
    have nonzero : ¬ (7 * 4 ≠ 0 && b == 0) = true := by
      simp only [Bool.and_eq_true, beq_iff_eq, ← UInt8.toNat_inj]
      rintro ⟨-, zero⟩
      rw [zero] at large
      exact absurd large (by decide)
    have excess : ¬ lowBits (c.rest.take 4) + b.toNat <<< (7 * 4) < UInt32.size := by
      rw [Nat.shiftLeft_eq, UInt32.size]
      omega
    rw [decode_of_endsAt ends (by decide), if_neg nonzero, if_neg excess]
    rfl

theorem decode_of_cutShort {c : Cursor} (h : CutShort c.rest) :
    (decode c).1 = .error (.truncated 1 0) := by
  obtain ⟨short, high⟩ := h
  have run : c.Spans c.rest ⟨c.position + c.rest.length, []⟩ :=
    ⟨(List.append_nil c.rest).symm, rfl⟩
  obtain ⟨left, count⟩ : ∃ left, c.rest.length + (left + 1) = maxBytes :=
    ⟨maxBytes - c.rest.length - 1, by rw [maxBytes]; omega⟩
  rw [decode_run run high count, decodeFrom_end rfl]

/-- A byte without the high bit that comes in time ends the form of a number, unless it is a zero
behind others or has more bits than are left to it. -/
theorem exists_number_of_endsAt {c : Cursor} {i : Nat} {b : UInt8} (h : EndsAt c.rest i b)
    (inTime : i < maxBytes) (shortest : i = 0 ∨ b ≠ 0) (small : i = 4 → b < 0x10) :
    ∃ n, encode n <+: c.rest := by
  obtain ⟨inside, -⟩ := h.eq_append
  have run := lowBits_lt (c.rest.take i)
  rw [List.length_take_of_le (Nat.le_of_lt inside)] at run
  have ending : b.toNat < 0x80 := UInt8.lt_iff_toNat_lt.mp h.last
  have nonzero : ¬ (7 * i ≠ 0 && b == 0) = true := by
    simp only [Bool.and_eq_true, decide_eq_true_eq, beq_iff_eq]
    rintro ⟨behind, zero⟩
    rcases shortest with first | other
    · omega
    · exact other zero
  have range : lowBits (c.rest.take i) + b.toNat <<< (7 * i) < UInt32.size := by
    rw [Nat.shiftLeft_eq, UInt32.size]
    rw [maxBytes] at inTime
    -- only behind four groups of seven bits can the last one reach past the 32nd bit
    interval_cases i
    · omega
    · omega
    · omega
    · omega
    · have low : b.toNat < 0x10 := UInt8.lt_iff_toNat_lt.mp (small rfl)
      omega
  have read := decode_of_endsAt h inTime
  rw [if_neg nonzero, if_pos range] at read
  exact ⟨_, _, (spans_of_decode read).rest.symm⟩

theorem Front.exists_of (bs : List UInt8) : ∃ front : Front, front.Of bs := by
  rcases endsAt_or_run 5 bs with ⟨i, b, inTime, ends⟩ | run | short
  · by_cases padded : i ≠ 0 ∧ b = 0
    · obtain ⟨behind, rfl⟩ := padded
      exact ⟨.padded, i, by omega, by omega, ends⟩
    · by_cases excess : i = 4 ∧ 0x10 ≤ b
      · obtain ⟨rfl, large⟩ := excess
        have ending := UInt8.lt_iff_toNat_lt.mp ends.last
        refine ⟨.excessive, .inr ⟨b, ends, large, UInt8.le_iff_toNat_le.mpr ?_⟩⟩
        exact Nat.le_of_lt_succ ending
      · have shortest : i = 0 ∨ b ≠ 0 := by tauto
        have small : i = 4 → b < 0x10 := by
          intro fifth
          rw [← UInt8.not_le]
          exact fun large => excess ⟨fifth, large⟩
        obtain ⟨n, form⟩ :=
          exists_number_of_endsAt (c := Cursor.start bs) ends inTime shortest small
        exact ⟨.number n, form⟩
  · exact ⟨.excessive, .inl run⟩
  · exact ⟨.cutShort, short⟩

theorem decode_eq_ok_iff {c c' : Cursor} {n : UInt32} :
    decode c = (.ok n, c') ↔ c.Spans (encode n) c' :=
  ⟨spans_of_decode, decode_of_spans⟩

theorem Front.decode_of {front : Front} {c : Cursor} (h : front.Of c.rest) :
    (decode c).1 = front.answer := by
  cases front with
  | number n =>
    obtain ⟨rest, shape⟩ := h
    have span : c.Spans (encode n) ⟨c.position + (encode n).length, rest⟩ := ⟨shape.symm, rfl⟩
    rw [decode_of_spans span]
    rfl
  | padded => exact decode_of_padded h
  | excessive => exact decode_of_excessive h
  | cutShort => exact decode_of_cutShort h

/-- An answer is that of the bytes before the reader. -/
theorem decode_eq_answer_iff {c : Cursor} (front : Front) :
    (decode c).1 = front.answer ↔ front.Of c.rest := by
  constructor
  · intro said
    obtain ⟨actual, holds⟩ := Front.exists_of c.rest
    have same := Front.answer_injective ((actual.decode_of holds).symm.trans said)
    rwa [← same]
  · exact Front.decode_of

theorem decode_eq_truncated_iff {c : Cursor} {needed remaining : Nat} :
    (decode c).1 = .error (.truncated needed remaining) ↔
      needed = 1 ∧ remaining = 0 ∧ CutShort c.rest := by
  constructor
  · intro said
    obtain ⟨front, holds⟩ := Front.exists_of c.rest
    rw [front.decode_of holds] at said
    cases front <;> cases said
    exact ⟨rfl, rfl, holds⟩
  · rintro ⟨rfl, rfl, cut⟩
    exact decode_of_cutShort cut

/-- All bytes are of one kind, and of no other. -/
theorem Front.existsUnique (bs : List UInt8) : ∃! front : Front, front.Of bs := by
  obtain ⟨front, holds⟩ := Front.exists_of bs
  refine ⟨front, holds, ?_⟩
  intro other also
  have said := Front.decode_of (c := Cursor.start bs) holds
  have alsoSaid := Front.decode_of (c := Cursor.start bs) also
  exact Front.answer_injective (alsoSaid.symm.trans said)

/-- The reader gives a number and goes `k` bytes further exactly if the first `k` bytes are the form
of the number, which has the announced length, from one byte to five; each of its faults has its own
kind of bytes, and all bytes are of one kind and no more. -/
theorem answers_by_first_bytes (c : Cursor) :
    (∀ n k, decode c = (.ok n, c.skip k) ↔ k ≤ c.remaining ∧ c.rest.take k = encode n) ∧
      (∀ n, (encode n).length = encodedLength n ∧ 1 ≤ encodedLength n ∧ encodedLength n ≤ 5) ∧
      ((decode c).1 = .error .nonCanonicalUleb128 ↔ Padded c.rest) ∧
      ((decode c).1 = .error .uleb128Overflow ↔ Excessive c.rest) ∧
      (∀ needed remaining, (decode c).1 = .error (.truncated needed remaining) ↔
        needed = 1 ∧ remaining = 0 ∧ CutShort c.rest) ∧
      ∃! front : Front, front.Of c.rest := by
  refine ⟨?_, ?_, ?_, ?_, fun _ _ => decode_eq_truncated_iff, Front.existsUnique c.rest⟩
  · intro n k
    rw [decode_eq_ok_iff, Cursor.spans_skip_iff]
  · intro n
    exact ⟨length_encode n, encodedLength_bounds n⟩
  · exact decode_eq_answer_iff .padded
  · exact decode_eq_answer_iff .excessive

/-- A zero for the fifth byte pads, however large the others; any other has room for four bits. -/
example : (decode (Cursor.start [0xFF, 0xFF, 0xFF, 0xFF, 0x00])).1 = .error .nonCanonicalUleb128 ∧
    (decode (Cursor.start [0x80, 0x80, 0x80, 0x80, 0x10])).1 = .error .uleb128Overflow := by
  exact ⟨rfl, rfl⟩

end MoveWallet.Wire.Uleb128
