/-
# MoveWallet.Proofs.Transaction.Hex — transactions as hex text

* `ofHex_of_toHex`: the hex of a transaction that can be read is read as that transaction.
* `toHex_of_ofHex`: hex that is read is, but for its case and the `0x`, what the transaction is
  written as.

Both join the law of hex text with that of the transaction's bytes.
-/
import MoveWallet.Proofs.Account.ObjectForms
import MoveWallet.Proofs.Transaction.Wire
import MoveWallet.Proofs.Wire.Answer

namespace MoveWallet.Transaction

set_option autoImplicit false

open MoveWallet.Account
open MoveWallet.Text
open MoveWallet.Text.Separator
open MoveWallet.Wire

@[simp] theorem TransactionError.ofWire_eq_ok {α : Type} {x : Except WireError α} {a : α} :
    ofWire x = .ok a ↔ x = .ok a := by
  cases x with
  | error e => simp [ofWire]
  | ok b => simp [ofWire]

namespace Signed

theorem toHex_eq_ok {t : Signed} {text : String} :
    t.toHex = .ok text ↔ ∃ bs, codec.encode t = .ok bs ∧ text = "0x" ++ Hex.encode bs := by
  unfold toHex
  constructor
  · intro h
    obtain ⟨bs, written, made⟩ := bind_eq_ok.mp h
    cases made
    exact ⟨bs, written, rfl⟩
  · rintro ⟨bs, written, rfl⟩
    exact bind_eq_ok.mpr ⟨bs, written, rfl⟩

theorem ofHex_eq_ok {t : Signed} {text : String} :
    ofHex text = .ok t ↔
      ∃ bs, Hex.decode (withoutMarker text) = .ok bs ∧ codec.decodeExact bs = .ok t := by
  unfold ofHex
  constructor
  · intro h
    split at h
    · cases h
    · rename_i bs digits
      exact ⟨bs, digits, TransactionError.ofWire_eq_ok.mp h⟩
  · rintro ⟨bs, digits, read⟩
    rw [digits]
    exact TransactionError.ofWire_eq_ok.mpr read

/-- A transaction that is read is written as the same hex, in lower case and marked. -/
theorem toHex_of_ofHex {t : Signed} {text : String} (read : ofHex text = .ok t) :
    t.toHex = .ok ("0x" ++ (withoutMarker text).toLower) := by
  obtain ⟨bs, digits, decoded⟩ := ofHex_eq_ok.mp read
  rw [← Hex.encode_of_decode digits]
  exact toHex_eq_ok.mpr ⟨bs, canonical_signed.encode_of_exact decoded, rfl⟩

end Signed

end MoveWallet.Transaction
