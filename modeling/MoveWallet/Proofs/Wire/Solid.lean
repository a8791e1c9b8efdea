/-
# MoveWallet.Proofs.Wire.Solid — values that take at least one byte

A list is read only where at least as many bytes follow its length as it has items, so it matters
which codecs write every value as something.  Lengths, variants and marks take a byte by themselves;
a pair takes one if either part does, and a fixed byte string if it is not of length zero.
-/
import MoveWallet.Proofs.Wire.Law

namespace MoveWallet.Wire

set_option autoImplicit false

open MoveWallet.Bytes.Fixed

variable {α β : Type} {c : Codec α} {d : Codec β}

theorem solid_variant (index : UInt32) {x : Encoding} {bs : List UInt8}
    (written : encodeVariant index ++ x = .ok bs) : bs ≠ [] := by
  obtain ⟨t, -, rfl⟩ := encodeVariant_append_eq_ok.mp written
  exact List.append_ne_nil_of_left_ne_nil (Uleb128.encode_ne_nil index) t

namespace Codec

theorem solid_uint (w : Width) : Solid (uint w).encode := by
  intro n bs written
  cases written
  have size : (Bytes.Endian.littleEndian w.bytes n.toNat).length = w.bytes :=
    Bytes.Endian.length_littleEndian _ _
  have positive : 0 < w.bytes := by cases w <;> decide
  rw [← size] at positive
  exact List.length_pos_iff.mp positive

theorem solid_fixed {n : Nat} (positive : n ≠ 0) : Solid (fixed n).encode := by
  intro a bs written
  cases written
  have size := a.length_toList
  intro empty
  rw [empty] at size
  exact positive size.symm

/-- A pair takes a byte if one of its parts does. -/
theorem solid_pair (h : Solid c.encode ∨ Solid d.encode) : Solid (c.pair d).encode := by
  intro p bs written
  obtain ⟨s, t, first, second, rfl⟩ := Encoding.append_eq_ok.mp written
  rcases h with left | right
  · exact List.append_ne_nil_of_left_ne_nil (left first) t
  · exact List.append_ne_nil_of_right_ne_nil s (right second)

theorem solid_map {build : α → β} {parts : β → α} (h : Solid c.encode) :
    Solid (c.map build parts).encode := fun _ _ written => h written

theorem solid_refine {e : WireError} {build? : α → Option β} {parts : β → α}
    (h : Solid c.encode) : Solid (c.refine e build? parts).encode := fun _ _ written => h written

theorem solid_vec : Solid (Codec.vec c).encode := by
  intro as bs written
  obtain ⟨s, t, count, -, rfl⟩ := Encoding.append_eq_ok.mp written
  exact List.append_ne_nil_of_left_ne_nil (solid_encodeLength count) t

theorem solid_option : Solid (Codec.option c).encode := by
  intro o bs written
  cases o with
  | none =>
    cases written
    exact List.cons_ne_nil 0 []
  | some a =>
    obtain ⟨s, t, mark, -, rfl⟩ := Encoding.append_eq_ok.mp written
    cases mark
    exact List.cons_ne_nil 1 t

end Codec

end MoveWallet.Wire
