/-
# MoveWallet.Proofs.Wire.Advance — readers go forward only, and stay inside their buffer

A reader that fails stops where the fault was found, and the next one goes on from there, so what is
said of a reader has to cover its failures.  `Decoder.Advances` says that it stops further on in the
same buffer whatever comes of it: the primitive readers do, and so does every composition of readers
that do.  `Decoder.AllOrNothing` is what the primitive readers have besides: one that fails has not
moved.
-/
import MoveWallet.Proofs.Wire.Reader

namespace MoveWallet.Wire

set_option autoImplicit false

open MoveWallet.Bytes.Fixed

variable {α β : Type}

namespace Decoder

/-- With a value or with a fault, the reader stops behind some bytes of its buffer, or where it
was. -/
def Advances (d : Decoder α) : Prop := ∀ c : Cursor, ∃ bs, c.Spans bs (d c).2

/-- A fault leaves the reader where it was. -/
def AllOrNothing (d : Decoder α) : Prop := ∀ ⦃c c' : Cursor⦄ ⦃e : WireError⦄,
  d c = (.error e, c') → c' = c

/-! ## Readers that do not move -/

theorem advances_pure (a : α) : (pure a : Decoder α).Advances := fun c => ⟨[], Cursor.Spans.nil c⟩

theorem advances_fail (e : WireError) : (fail e : Decoder α).Advances :=
  fun c => ⟨[], Cursor.Spans.nil c⟩

theorem advances_remaining : remaining.Advances := fun c => ⟨[], Cursor.Spans.nil c⟩

theorem advances_ofOption (e : WireError) (o : Option α) : (ofOption e o).Advances := by
  cases o with
  | none => exact advances_fail e
  | some a => exact advances_pure a

/-! ## Composition -/

theorem Advances.bind {d : Decoder α} {f : α → Decoder β} (h : d.Advances)
    (k : ∀ a, (f a).Advances) : (d >>= f).Advances := by
  intro c
  obtain ⟨bs, span⟩ := h c
  rcases result : d c with ⟨e | a, mid⟩
  · rw [bind_of_error result]
    rw [result] at span
    exact ⟨bs, span⟩
  · rw [bind_of_ok result]
    rw [result] at span
    obtain ⟨more, span'⟩ := k a mid
    exact ⟨bs ++ more, span.append span'⟩

theorem Advances.map {d : Decoder α} {g : α → β} (h : d.Advances) :
    (d >>= fun a => pure (g a)).Advances := h.bind fun a => advances_pure (g a)

theorem Advances.ite {p : Prop} [Decidable p] {d e : Decoder α} (h : d.Advances)
    (k : e.Advances) : (if p then d else e).Advances := by
  by_cases holds : p
  · rwa [if_pos holds]
  · rwa [if_neg holds]

theorem Advances.readMany {d : Decoder α} (h : d.Advances) (n : Nat) :
    (d.readMany n).Advances := by
  induction n with
  | zero => exact advances_pure []
  | succ n ih => exact h.bind fun a => ih.map

theorem AllOrNothing.map {d : Decoder α} {g : α → β} (h : d.AllOrNothing) :
    (d >>= fun a => pure (g a)).AllOrNothing := by
  intro c c' e failed
  rcases result : d c with ⟨e' | a, mid⟩
  · rw [bind_of_error result] at failed
    cases failed
    exact h result
  · rw [bind_of_ok result] at failed
    cases failed

/-! ## Bytes -/

theorem advances_readFixed (n : Nat) : (readFixed n).Advances := by
  intro c
  unfold readFixed
  split
  · rename_i enough
    refine ⟨c.rest.take n, (List.take_append_drop n c.rest).symm, ?_⟩
    rw [List.length_take_of_le enough]
  · exact ⟨[], Cursor.Spans.nil c⟩

theorem allOrNothing_readFixed (n : Nat) : (readFixed n).AllOrNothing := by
  intro c c' e failed
  unfold readFixed at failed
  split at failed
  · cases failed
  · cases failed
    rfl

theorem advances_readBytes (n : Nat) : (readBytes n).Advances := (advances_readFixed n).map

theorem allOrNothing_readBytes (n : Nat) : (readBytes n).AllOrNothing :=
  (allOrNothing_readFixed n).map

theorem advances_readByte : readByte.Advances := by
  intro c
  unfold readByte
  split
  · rename_i b rest shape
    exact ⟨[b], shape, rfl⟩
  · exact ⟨[], Cursor.Spans.nil c⟩

theorem advances_readAnnounced (n : Nat) : (readAnnounced n).Advances :=
  advances_remaining.bind fun _ => (advances_fail _).ite (advances_readBytes n)

theorem allOrNothing_readAnnounced (n : Nat) : (readAnnounced n).AllOrNothing := by
  intro c c' e failed
  have left : remaining c = (.ok c.remaining, c) := rfl
  rw [readAnnounced, bind_of_ok left] at failed
  split at failed
  · cases failed
    rfl
  · exact allOrNothing_readBytes n failed

/-! ## Lengths and variants -/

theorem advances_decodeFrom (value shift left : Nat) :
    (Uleb128.decodeFrom value shift left).Advances := by
  induction left generalizing value shift with
  | zero => exact advances_fail _
  | succ left ih =>
    refine advances_readByte.bind fun b => ?_
    exact ((advances_fail _).ite ((advances_pure _).ite (advances_fail _))).ite (ih _ _)

theorem advances_uleb128 : Uleb128.decode.Advances := advances_decodeFrom 0 0 Uleb128.maxBytes

theorem advances_decodeLength : decodeLength.Advances :=
  advances_uleb128.bind fun _ => advances_remaining.bind fun _ =>
    (advances_fail _).ite (advances_pure _)

theorem advances_decodeVariant : decodeVariant.Advances := advances_uleb128.map

/-- A length that is read is not more than what is left behind it. -/
theorem le_remaining_of_decodeLength {n : Nat} {c c' : Cursor}
    (read : decodeLength c = (.ok n, c')) : n ≤ c'.remaining := by
  obtain ⟨m, mid, number, -⟩ := bind_eq_ok.mp read
  rw [decodeLength_eq number] at read
  split at read
  · cases read
  · rename_i enough
    cases read
    exact Nat.le_of_not_lt enough

end Decoder

/-! ## Codecs -/

namespace Codec

open Decoder

variable {c : Codec α} {d : Codec β}

theorem advances_pair (h : c.decode.Advances) (k : d.decode.Advances) :
    (c.pair d).decode.Advances := h.bind fun _ => k.map

theorem advances_map {build : α → β} {parts : β → α} (h : c.decode.Advances) :
    (c.map build parts).decode.Advances := Advances.map h

theorem advances_refine {e : WireError} {build? : α → Option β} {parts : β → α}
    (h : c.decode.Advances) : (c.refine e build? parts).decode.Advances :=
  h.bind fun _ => advances_ofOption e _

theorem advances_vec (h : c.decode.Advances) : (Codec.vec c).decode.Advances :=
  advances_decodeLength.bind fun n => h.readMany n

theorem advances_option (h : c.decode.Advances) : (Codec.option c).decode.Advances :=
  advances_readByte.bind fun _ =>
    (advances_pure none).ite (Advances.ite (Advances.map h) (advances_fail _))

theorem advances_uint (w : Width) : (uint w).decode.Advances := (advances_readBytes w.bytes).map

theorem advances_word : word.decode.Advances := (advances_uint .w64).map

theorem advances_bool : bool.decode.Advances :=
  advances_readByte.bind fun _ =>
    (advances_pure false).ite ((advances_pure true).ite (advances_fail _))

theorem advances_fixed (n : Nat) : (fixed n).decode.Advances := advances_readFixed n

theorem advances_bytes : bytes.decode.Advances :=
  advances_decodeLength.bind fun n => advances_readAnnounced n

theorem advances_text : text.decode.Advances := advances_refine advances_bytes

end Codec

end MoveWallet.Wire
