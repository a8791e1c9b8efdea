/-
# MoveWallet.Proofs.Schema.Size — the schemas whose values take at least one byte

A list is read only where at least as many bytes follow its length as it has items, so its items
have to take a byte each.  All do, except fixed byte strings of length zero and the boxes and pairs
made of nothing else: `Schema.solid_iff` says that these are the only ones.
-/
import MoveWallet.Proofs.Schema.Canonicity

namespace MoveWallet

set_option autoImplicit false

open MoveWallet.Account
open MoveWallet.Auth
open MoveWallet.Bytes.Fixed
open MoveWallet.Move
open MoveWallet.Transaction
open MoveWallet.Wire

/-! ## Leaves -/

theorem solid_identifier : Solid Identifier.codec.encode :=
  Codec.solid_refine fun _ _ written => Codec.solid_bytes written

theorem solid_moduleId : Solid ModuleId.codec.encode :=
  Codec.solid_map (Codec.solid_pair (.inl solid_address))

theorem solid_structTag : Solid StructTag.codec.encode := by
  intro s bs written
  change s.encode = .ok bs at written
  rw [← encode_structCodec 0] at written
  have fields : Solid (structCodec (TypeTag.codecAt 0)).encode :=
    Codec.solid_map (Codec.solid_pair (.inl solid_address))
  exact fields written

theorem solid_word : Solid Codec.word.encode := fun _ _ written => Codec.solid_uint .w64 written

theorem solid_chain : Solid Chain.codec.encode := Codec.solid_refine solid_word

theorem solid_action : Solid Action.codec.encode := by
  intro action bs written
  cases action with
  | script call => exact solid_variant 0 written
  | function call => exact solid_variant 1 written
  | modules codes => exact solid_variant 2 written

theorem solid_body : Solid Body.codec.encode :=
  Codec.solid_map (Codec.solid_pair (.inl solid_address))

theorem solid_ledgerEntry : Solid LedgerEntry.codec.encode := by
  intro entry bs written
  cases entry with
  | block b => exact solid_variant 0 written
  | relayed t => exact solid_variant 1 written
  | signed t => exact solid_variant 2 written

/-- Every leaf takes a byte, but for a fixed byte string of length zero. -/
theorem Leaf.solid {l : Leaf} (h : l ≠ .fixed 0) : Solid l.codec.encode := by
  cases l with
  | uint w => exact Codec.solid_uint w
  | bool =>
    intro b bs written
    cases written
    exact List.cons_ne_nil _ []
  | text => exact fun _ _ written => Codec.solid_bytes written
  | uleb128 =>
    intro n bs written
    cases written
    exact Uleb128.encode_ne_nil n
  | bytes => exact Codec.solid_bytes
  | fixed n => exact Codec.solid_fixed fun zero => h (congrArg Leaf.fixed zero)
  | address => exact solid_address
  | digest => exact Codec.solid_map (Codec.solid_fixed (by decide))
  | objectId => exact Codec.solid_refine Codec.solid_vec
  | identifier => exact solid_identifier
  | typeTag => exact fun t _ written => TypeTag.solid t written
  | structTag => exact solid_structTag
  | moduleId => exact solid_moduleId
  | functionId => exact Codec.solid_map (Codec.solid_pair (.inl solid_moduleId))
  | scriptCall => exact Codec.solid_map (Codec.solid_pair (.inl Codec.solid_bytes))
  | functionCall =>
    exact Codec.solid_map (Codec.solid_pair (.inl
      (Codec.solid_map (Codec.solid_pair (.inl solid_moduleId)))))
  | action => exact solid_action
  | body => exact solid_body
  | authenticator => exact Codec.solid_map (Codec.solid_pair (.inl solid_word))
  | bitcoinPayload => exact Codec.solid_map (Codec.solid_pair (.inl Codec.solid_bytes))
  | signed => exact Codec.solid_map (Codec.solid_pair (.inl solid_body))
  | chain => exact solid_chain
  | relayedBlock => exact Codec.solid_map (Codec.solid_pair (.inl solid_chain))
  | relayedTransaction => exact Codec.solid_map (Codec.solid_pair (.inl solid_chain))
  | ledgerEntry => exact solid_ledgerEntry

/-! ## Schemas -/

namespace Schema

/-- A schema that says nothing: its one value is written as no bytes. -/
def isHollow : Schema → Bool
  | leaf l => l == .fixed 0
  | box item => item.isHollow
  | pair first second => first.isHollow && second.isHollow
  | vec _ => false
  | option _ => false

theorem exists_of_isHollow {s : Schema} (h : s.isHollow = true) : ∃ v, s.codec.encode v = .ok [] := by
  induction s with
  | leaf l =>
    rw [isHollow, beq_iff_eq] at h
    subst h
    exact ⟨FixedBytes.zero 0, rfl⟩
  | vec item => cases h
  | option item => cases h
  | box item ih => exact ih h
  | pair first second ihFirst ihSecond =>
    rw [isHollow, Bool.and_eq_true] at h
    obtain ⟨a, writtenA⟩ := ihFirst h.1
    obtain ⟨b, writtenB⟩ := ihSecond h.2
    exact ⟨(a, b), Encoding.append_eq_ok.mpr ⟨[], [], writtenA, writtenB, rfl⟩⟩

/-- The values of a schema take at least one byte unless it says nothing. -/
theorem solid_iff {s : Schema} : Solid s.codec.encode ↔ s.isHollow = false := by
  constructor
  · intro solid
    rw [← Bool.not_eq_true]
    intro hollow
    obtain ⟨v, written⟩ := exists_of_isHollow hollow
    exact solid written rfl
  · intro h
    induction s with
    | leaf l => exact Leaf.solid (beq_eq_false_iff_ne.mp h)
    | vec item => exact Codec.solid_vec
    | option item => exact Codec.solid_option
    | box item ih => exact ih h
    | pair first second ihFirst ihSecond =>
      rw [isHollow, Bool.and_eq_false_iff] at h
      exact Codec.solid_pair (h.imp ihFirst ihSecond)

end Schema

end MoveWallet
