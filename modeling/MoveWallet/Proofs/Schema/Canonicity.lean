/-
# MoveWallet.Proofs.Schema.Canonicity — every value has one written form

`Schema.canonical` is by induction on the schema: each leaf accepts only what it writes, and so do
lists, optional values, boxes and pairs of what does.  `encode_of_decodeExact` draws the consequence
for whole buffers of every schema, and for transactions in hex, where letter case and the `0x` in
front are all that a reader forgives.
-/
import MoveWallet.Proofs.Transaction.Hex
import MoveWallet.Schema.Basic

namespace MoveWallet

set_option autoImplicit false

open MoveWallet.Account
open MoveWallet.Auth
open MoveWallet.Move
open MoveWallet.Text
open MoveWallet.Transaction
open MoveWallet.Wire

theorem canonical_digest : Digest32.codec.Canonical := (Codec.canonical_fixed 32).map fun _ => rfl

/-- Every leaf is read from one form only. -/
theorem Leaf.canonical (l : Leaf) : l.codec.Canonical := by
  cases l with
  | uint w => exact Codec.canonical_uint w
  | bool => exact Codec.canonical_bool
  | text => exact Codec.canonical_text
  | uleb128 => exact Codec.canonical_uleb128
  | bytes => exact Codec.canonical_bytes
  | fixed n => exact Codec.canonical_fixed n
  | address => exact canonical_address
  | digest => exact canonical_digest
  | objectId => exact canonical_objectId
  | identifier => exact canonical_identifier
  | typeTag => exact canonical_typeTag
  | structTag => exact canonical_structTag
  | moduleId => exact canonical_moduleId
  | functionId => exact canonical_functionId
  | scriptCall => exact canonical_scriptCall
  | functionCall => exact canonical_functionCall
  | action => exact canonical_action
  | body => exact canonical_body
  | authenticator => exact canonical_authenticator
  | bitcoinPayload => exact canonical_bitcoinPayload
  | signed => exact canonical_signed
  | chain => exact canonical_chain
  | relayedBlock => exact canonical_relayedBlock
  | relayedTransaction => exact canonical_relayedTransaction
  | ledgerEntry => exact canonical_ledgerEntry

/-- Every schema is read from one form only, wherever the bytes stand. -/
theorem Schema.canonical (s : Schema) : s.codec.Canonical := by
  induction s with
  | leaf l => exact l.canonical
  | vec item ih => exact ih.vec
  | option item ih => exact ih.option
  | box item ih => exact ih
  | pair first second ihFirst ihSecond => exact ihFirst.pair ihSecond

/-- A buffer that is read as a value of a schema is what the value is written as, so no two buffers
are read as one value.  A transaction that is read from hex is written as that hex in lower case,
after `0x` whether it had that or not. -/
theorem encode_of_decodeExact :
    (∀ (s : Schema) (v : s.Value) (bs : List UInt8), s.codec.decodeExact bs = .ok v →
      s.codec.encode v = .ok bs ∧ ∀ other, s.codec.decodeExact other = .ok v → other = bs) ∧
    ∀ (text : String) (t : Signed), Signed.ofHex text = .ok t →
      t.toHex = .ok ("0x" ++ (withoutMarker text).toLower) := by
  refine ⟨?_, ?_⟩
  · intro s v bs read
    have written := s.canonical.encode_of_exact read
    refine ⟨written, ?_⟩
    intro other read'
    have written' := s.canonical.encode_of_exact read'
    exact Except.ok.inj (written'.symm.trans written)
  · intro text t read
    exact Signed.toHex_of_ofHex read

/-- A transaction that calls a script of one byte. -/
def smallTransaction : Signed :=
  ⟨⟨Address.zero, 0, 0, 0, .script ⟨[0xAB], [], []⟩⟩, ⟨0, [0xCD]⟩⟩

/-- The hex of `smallTransaction` with capital letters and without a marker. -/
def smallText : String := String.ofList (List.replicate 112 '0') ++ "0001AB0000000000000000000001CD"

/-- A list of optional truth values with a boxed type, and a transaction in capital hex. -/
theorem encode_of_decodeExact_small :
    (Schema.pair (.vec (.option (.leaf .bool))) (.box (.leaf .typeTag))).codec.encode
      ([none, some true], TypeTag.vector (.primitive .u8)) = .ok [2, 0, 1, 1, 6, 1] ∧
    Signed.ofHex smallText = .ok smallTransaction ∧
    smallTransaction.toHex = .ok ("0x" ++ (withoutMarker smallText).toLower) := by
  have read : Signed.ofHex smallText = .ok smallTransaction :=
    eq_ok_of_toOption (by decide +kernel)
  have value := encode_of_decodeExact.1
    (.pair (.vec (.option (.leaf .bool))) (.box (.leaf .typeTag)))
    ([none, some true], TypeTag.vector (.primitive .u8)) [2, 0, 1, 1, 6, 1] rfl
  exact ⟨value.1, read, encode_of_decodeExact.2 smallText smallTransaction read⟩

end MoveWallet
