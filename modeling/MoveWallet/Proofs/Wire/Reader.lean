/-
# MoveWallet.Proofs.Wire.Reader — what the primitive readers take from the front

Each reader has two lemmas.  `…_of_spans` says what it answers where the bytes it looks for stand;
`spans_of_…` says which bytes an answer was read from.
-/
import MoveWallet.Proofs.Wire.Uleb128

namespace MoveWallet.Wire

set_option autoImplicit false

open MoveWallet.Bytes.Fixed

variable {α : Type}

namespace Decoder

/-- Reading and then nothing more is reading. -/
theorem id_map (d : Decoder α) : id <$> d = d := by
  funext c
  show Decoder.bind d (fun a => Decoder.pure (id a)) c = d c
  unfold Decoder.bind
  rcases d c with ⟨e | a, c'⟩
  · rfl
  · rfl

theorem bind_assoc {β γ : Type} (d : Decoder α) (f : α → Decoder β) (g : β → Decoder γ) :
    d >>= f >>= g = d >>= fun a => f a >>= g := by
  funext c
  show Decoder.bind (Decoder.bind d f) g c = Decoder.bind d (fun a => Decoder.bind (f a) g) c
  unfold Decoder.bind
  rcases d c with ⟨e | a, c'⟩
  · rfl
  · rfl

instance : LawfulMonad Decoder :=
  LawfulMonad.mk' Decoder id_map (fun _ _ => rfl) bind_assoc

/-! ## Bytes -/

theorem readFixed_of_spans {n : Nat} {c₁ c₂ : Cursor} {a : FixedBytes n}
    (h : c₁.Spans a.toList c₂) : readFixed n c₁ = (.ok a, c₂) := by
  have enough : n ≤ c₁.rest.length := by
    rw [h.rest, List.length_append, a.length_toList]
    exact Nat.le_add_right _ _
  have taken : c₁.rest.take n = a.toList := by rw [h.rest, List.take_left' a.length_toList]
  have left : c₁.rest.drop n = c₂.rest := by rw [h.rest, List.drop_left' a.length_toList]
  have place : c₁.position + n = c₂.position := by rw [h.position, a.length_toList]
  unfold readFixed
  rw [dif_pos enough, left, place]
  exact congrArg (fun x => (Except.ok x, c₂)) (FixedBytes.ext taken)

theorem spans_of_readFixed {n : Nat} {c₁ c₂ : Cursor} {a : FixedBytes n}
    (h : readFixed n c₁ = (.ok a, c₂)) : c₁.Spans a.toList c₂ := by
  unfold readFixed at h
  split at h
  · rename_i enough
    cases h
    exact Cursor.spans_skip_iff.mpr ⟨enough, rfl⟩
  · cases h

theorem readBytes_of_spans {bs : List UInt8} {c₁ c₂ : Cursor} (h : c₁.Spans bs c₂) :
    readBytes bs.length c₁ = (.ok bs, c₂) :=
  bind_of_ok (f := fun a : FixedBytes bs.length => pure a.toList)
    (readFixed_of_spans (a := ⟨bs, rfl⟩) h)

theorem spans_of_readBytes {n : Nat} {bs : List UInt8} {c₁ c₂ : Cursor}
    (h : readBytes n c₁ = (.ok bs, c₂)) : bs.length = n ∧ c₁.Spans bs c₂ := by
  obtain ⟨a, c, read, made⟩ := bind_eq_ok.mp h
  obtain ⟨rfl, rfl⟩ := pure_eq_ok.mp made
  exact ⟨a.length_toList, spans_of_readFixed read⟩

/-- Announced bytes that are there are read as they are. -/
theorem readAnnounced_of_spans {bs : List UInt8} {c₁ c₂ : Cursor} (h : c₁.Spans bs c₂) :
    readAnnounced bs.length c₁ = (.ok bs, c₂) := by
  have enough : ¬ c₁.remaining < bs.length := by
    rw [Cursor.remaining, h.rest, List.length_append]
    omega
  have left : remaining c₁ = (.ok c₁.remaining, c₁) := rfl
  rw [readAnnounced, bind_of_ok left]
  simp only [enough, if_false]
  exact readBytes_of_spans h

theorem spans_of_readAnnounced {n : Nat} {bs : List UInt8} {c₁ c₂ : Cursor}
    (h : readAnnounced n c₁ = (.ok bs, c₂)) : bs.length = n ∧ c₁.Spans bs c₂ := by
  have left : remaining c₁ = (.ok c₁.remaining, c₁) := rfl
  rw [readAnnounced, bind_of_ok left] at h
  split at h
  · cases h
  · exact spans_of_readBytes h

end Decoder

/-! ## Lengths and variants -/

theorem encodeLength_eq_ok {n : Nat} {bs : List UInt8} :
    encodeLength n = .ok bs ↔ n < UInt32.size ∧ bs = Uleb128.encode (UInt32.ofNat n) := by
  unfold encodeLength
  split
  · rename_i small
    simp only [Except.ok.injEq, small, true_and, eq_comm]
  · rename_i large
    simp only [reduceCtorEq, large, false_and]

/-- The number that stands there is the length if as many bytes follow it, and refused otherwise. -/
theorem decodeLength_eq {n : UInt32} {c c' : Cursor} (number : Uleb128.decode c = (.ok n, c')) :
    decodeLength c =
      if c'.remaining < n.toNat then (.error (.lengthOverflow n.toNat c'.remaining), c')
      else (.ok n.toNat, c') := by
  have left : Decoder.remaining c' = (.ok c'.remaining, c') := rfl
  rw [decodeLength, Decoder.bind_of_ok number, Decoder.bind_of_ok left]
  split
  · rfl
  · rfl

/-- Where a length is written its reader finds it, and looks at how many bytes follow. -/
theorem decodeLength_of_written {n : Nat} {bs : List UInt8} {c₁ c₂ : Cursor}
    (written : encodeLength n = .ok bs) (h : c₁.Spans bs c₂) :
    decodeLength c₁ =
      if c₂.remaining < n then (.error (.lengthOverflow n c₂.remaining), c₂) else (.ok n, c₂) := by
  obtain ⟨small, rfl⟩ := encodeLength_eq_ok.mp written
  have number : (UInt32.ofNat n).toNat = n := by
    rw [UInt32.toNat_ofNat', Nat.mod_eq_of_lt small]
  rw [decodeLength_eq (Uleb128.decode_of_spans h), number]

/-- A length is read back where that many bytes follow it. -/
theorem decodeLength_of_spans {n : Nat} {bs : List UInt8} {c₁ c₂ : Cursor}
    (written : encodeLength n = .ok bs) (h : c₁.Spans bs c₂) (enough : n ≤ c₂.rest.length) :
    decodeLength c₁ = (.ok n, c₂) := by
  rw [decodeLength_of_written written h, if_neg]
  exact Nat.not_lt.mpr enough

theorem spans_of_decodeLength {n : Nat} {c₁ c₂ : Cursor} (h : decodeLength c₁ = (.ok n, c₂)) :
    ∃ bs, encodeLength n = .ok bs ∧ c₁.Spans bs c₂ := by
  obtain ⟨m, c, read, -⟩ := Decoder.bind_eq_ok.mp h
  rw [decodeLength_eq read] at h
  split at h
  · cases h
  · cases h
    refine ⟨Uleb128.encode m, encodeLength_eq_ok.mpr ⟨m.toNat_lt, ?_⟩,
      Uleb128.spans_of_decode read⟩
    rw [UInt32.ofNat_toNat]

theorem decodeVariant_of_spans {index : UInt32} {c₁ c₂ : Cursor}
    (h : c₁.Spans (Uleb128.encode index) c₂) : decodeVariant c₁ = (.ok index.toNat, c₂) :=
  Decoder.bind_of_ok (Uleb128.decode_of_spans h)

theorem spans_of_decodeVariant {n : Nat} {c₁ c₂ : Cursor} (h : decodeVariant c₁ = (.ok n, c₂)) :
    c₁.Spans (Uleb128.encode (UInt32.ofNat n)) c₂ := by
  obtain ⟨index, c, read, made⟩ := Decoder.bind_eq_ok.mp h
  obtain ⟨rfl, rfl⟩ := Decoder.pure_eq_ok.mp made
  rw [UInt32.ofNat_toNat]
  exact Uleb128.spans_of_decode read

/-- What follows a variant's index is written as it would be alone. -/
theorem encodeVariant_append_eq_ok {index : UInt32} {x : Encoding} {bs : List UInt8} :
    encodeVariant index ++ x = .ok bs ↔ ∃ t, x = .ok t ∧ bs = Uleb128.encode index ++ t := by
  rw [Encoding.append_eq_ok]
  constructor
  · rintro ⟨s, t, head, tail, rfl⟩
    cases head
    exact ⟨t, tail, rfl⟩
  · rintro ⟨t, tail, rfl⟩
    exact ⟨_, t, rfl, tail, rfl⟩

/-- Where a variant is written its index is read, and what it holds stands behind. -/
theorem variant_of_spans {index : UInt32} {x : Encoding} {bs : List UInt8} {c₁ c₃ : Cursor}
    (written : encodeVariant index ++ x = .ok bs) (h : c₁.Spans bs c₃) :
    ∃ u c₂, x = .ok u ∧ decodeVariant.Answers c₁ none index.toNat c₂ ∧ c₂.Spans u c₃ := by
  obtain ⟨u, content, rfl⟩ := encodeVariant_append_eq_ok.mp written
  obtain ⟨c₂, before, behind⟩ := h.split
  exact ⟨u, c₂, content, decodeVariant_of_spans before, behind⟩

end MoveWallet.Wire
