/-
# MoveWallet.Proofs.Schema.Guard — when a refused length could not have been kept

A length is refused if it announces more items than bytes are left, before any item is read.  That
is right for items of at least one byte each, since a refused number of them does not fit into what
is left.  For the hollow schemas, whose items are written as nothing, it is wrong: any number of
them fits, and a list of them that is written is refused when it is read.  `guard_sound_iff` says
that there are no other exceptions, and what becomes of written lists in both cases.
-/
import MoveWallet.Proofs.Schema.Stream

namespace MoveWallet

set_option autoImplicit false

open MoveWallet.Bytes.Fixed
open MoveWallet.Wire

/-! ## Refusals -/

namespace Wire

variable {c c₁ c₂ c' : Cursor} {n r : Nat}

theorem decodeFrom_ne_lengthOverflow {value shift left : Nat} :
    Uleb128.decodeFrom value shift left c ≠ (.error (.lengthOverflow n r), c') := by
  intro refused
  induction left generalizing value shift c with
  | zero => cases refused
  | succ left ih =>
    rcases shape : c.rest with _ | ⟨b, bs⟩
    · have short : Decoder.readByte c = (.error (.truncated 1 0), c) := by
        rw [Decoder.readByte, shape]
      rw [Uleb128.decodeFrom, Decoder.bind_of_error short] at refused
      cases refused
    · by_cases last : b < 0x80
      · rw [Uleb128.decodeFrom_last shape last] at refused
        split_ifs at refused
        · cases refused
        · cases refused
        · cases refused
      · rw [Uleb128.decodeFrom_more shape last] at refused
        exact ih refused

/-- A refused length is greater than the number of bytes left behind it. -/
theorem remaining_lt_of_refused (refused : decodeLength c = (.error (.lengthOverflow n r), c')) :
    r = c'.remaining ∧ r < n := by
  rcases number : Uleb128.decode c with ⟨e | m, mid⟩
  · rw [decodeLength, Decoder.bind_of_error number] at refused
    cases refused
    exact absurd number decodeFrom_ne_lengthOverflow
  · rw [decodeLength_eq number] at refused
    split at refused
    · rename_i short
      cases refused
      exact ⟨rfl, short⟩
    · cases refused

/-- A length is refused where fewer bytes follow it. -/
theorem refused_of_spans {bs : List UInt8} (written : encodeLength n = .ok bs)
    (span : c₁.Spans bs c₂) (short : c₂.remaining < n) :
    decodeLength c₁ = (.error (.lengthOverflow n c₂.remaining), c₂) := by
  rw [decodeLength_of_written written span, if_pos short]

end Wire

namespace Schema

variable {s : Schema}

/-! ## Items that fit -/

/-- Some `n` values of the schema take at most `r` bytes, one after another. -/
def Fits (s : Schema) (n r : Nat) : Prop :=
  ∃ (vs : List s.Value) (bs : List UInt8),
    vs.length = n ∧ Codec.encodeMany s.codec.encode vs = .ok bs ∧ bs.length ≤ r

theorem not_fits_of_refused {c c' : Cursor} {n r : Nat} (h : s.isHollow = false)
    (refused : decodeLength c = (.error (.lengthOverflow n r), c')) : ¬ s.Fits n r := by
  obtain ⟨-, short⟩ := remaining_lt_of_refused refused
  rintro ⟨vs, bs, count, written, size⟩
  have enough := Codec.length_le_of_encodeMany (solid_iff.mpr h) written
  omega

/-! ## Hollow schemas -/

theorem eq_nil_of_isHollow (h : s.isHollow = true) {v : s.Value} {bs : List UInt8}
    (written : s.codec.encode v = .ok bs) : bs = [] := by
  induction s generalizing bs with
  | leaf l =>
    rw [isHollow, beq_iff_eq] at h
    subst h
    cases written
    exact List.eq_nil_of_length_eq_zero (FixedBytes.length_toList v)
  | vec item => cases h
  | option item => cases h
  | box item ih => exact ih h written
  | pair first second ihFirst ihSecond =>
    rw [isHollow, Bool.and_eq_true] at h
    obtain ⟨t, u, left, right, rfl⟩ := Encoding.append_eq_ok.mp written
    rw [ihFirst h.1 left, ihSecond h.2 right, List.append_nil]

theorem encodeMany_eq_nil (h : s.isHollow = true) {vs : List s.Value} {bs : List UInt8}
    (written : Codec.encodeMany s.codec.encode vs = .ok bs) : bs = [] := by
  induction vs generalizing bs with
  | nil =>
    cases written
    rfl
  | cons v vs ih =>
    obtain ⟨t, u, first, others, rfl⟩ := Encoding.append_eq_ok.mp written
    rw [eq_nil_of_isHollow h first, ih others, List.append_nil]

/-- A written list of nothing is refused when it is read, unless it is empty. -/
theorem decodeExact_of_isHollow (h : s.isHollow = true) {vs : List s.Value} {bs : List UInt8}
    (written : (Codec.vec s.codec).encode vs = .ok bs) :
    (Codec.vec s.codec).decodeExact bs =
      if vs.isEmpty then .ok [] else .error (.lengthOverflow vs.length 0) := by
  obtain ⟨t, u, count, items, rfl⟩ := Encoding.append_eq_ok.mp written
  obtain rfl := encodeMany_eq_nil h items
  have span : (Cursor.start (t ++ [])).Spans t ⟨t.length, []⟩ := Cursor.Spans.start_append t []
  show Decoder.run (decodeLength >>= s.codec.decode.readMany) (t ++ []) = _
  cases vs with
  | nil =>
    have length := decodeLength_of_spans count span (Nat.le_refl 0)
    rw [Decoder.run, Decoder.bind_of_ok (f := s.codec.decode.readMany) length]
    rfl
  | cons v vs =>
    have refused := refused_of_spans count span (Nat.succ_pos vs.length)
    rw [Decoder.run, Decoder.bind_of_error (f := s.codec.decode.readMany) refused]
    rfl

/-- The guard is right about all schemas but the hollow ones: what it refuses does not fit.  Lists
without hollow items at any depth are read back as they were written, and of lists of a hollow
schema only the empty one is. -/
theorem guard_sound_iff (s : Schema) :
    ((∀ c c' n r, decodeLength c = (.error (.lengthOverflow n r), c') → ¬ s.Fits n r) ↔
      s.isHollow = false) ∧
    ((vec s).Streams → ∀ (vs : List s.Value) (bs : List UInt8), (vec s).codec.encode vs = .ok bs →
      (vec s).codec.decodeExact bs = .ok vs) ∧
    (s.isHollow = true → ∀ (vs : List s.Value) (bs : List UInt8),
      (vec s).codec.encode vs = .ok bs → (vec s).codec.decodeExact bs =
        if vs.isEmpty then .ok [] else .error (.lengthOverflow vs.length 0)) := by
  refine ⟨⟨?_, ?_⟩, ?_, ?_⟩
  · intro sound
    rw [← Bool.not_eq_true]
    intro hollow
    -- a length of one with nothing behind it is refused, and one such item takes no bytes
    obtain ⟨v, written⟩ := exists_of_isHollow hollow
    have refused : decodeLength (Cursor.start [1]) =
        (.error (.lengthOverflow 1 0), ⟨1, []⟩) := by rfl
    refine sound _ _ _ _ refused ⟨[v], [], rfl, ?_, Nat.le_refl 0⟩
    exact Encoding.append_eq_ok.mpr ⟨[], [], written, rfl, rfl⟩
  · exact fun solid c c' n r refused => not_fits_of_refused solid refused
  · exact fun streams vs bs written => Codec.Reads.decodeExact streams.faithful written rfl
  · exact fun hollow vs bs written => decodeExact_of_isHollow hollow written

/-- Two empty byte strings are written as their number alone, and nothing more is needed for them
where that number is refused. -/
theorem guard_refuses_two_empty :
    ∃ (s : Schema) (c c' : Cursor), decodeLength c = (.error (.lengthOverflow 2 0), c') ∧
      s.Fits 2 0 ∧ ∃ vs : List s.Value, (vec s).codec.encode vs = .ok [2] ∧
        (vec s).codec.decodeExact [2] = .error (.lengthOverflow 2 0) := by
  refine ⟨.leaf (.fixed 0), Cursor.start [2], ⟨1, []⟩, by rfl, ?_, ?_⟩
  · exact ⟨[FixedBytes.zero 0, FixedBytes.zero 0], [], rfl, rfl, Nat.le_refl 0⟩
  · exact ⟨[FixedBytes.zero 0, FixedBytes.zero 0], by rfl, by rfl⟩

end Schema

end MoveWallet
