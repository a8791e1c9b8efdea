/-
# MoveWallet.Proofs.Bitcoin.Taproot — the taproot address of a key

The address of a key is made as that of any witness program, and its program is a supported one, so
it is made for every key that can be read (`ofPublicKey_of_readKey`).  The native address of a key is
hashed from bytes that are laid out without it; they are the wrapped bytes of the address
(`account_ofKey`).  The text of an address says its network, so the hint of a reader does not change
what it pays to: `parse_ofKey` reads the address of a key as one of the same payee, whatever network
it was written for and whatever hint it is read with.
-/
import MoveWallet.Proofs.Bitcoin.Witness
import MoveWallet.Proofs.Curve.Parity

namespace MoveWallet.Bitcoin

set_option autoImplicit false

open MoveWallet.Curve
open MoveWallet.Curve.Secp256k1 (CurveKey XOnlyKey ofBytes?_bytes ofCompressed?_compressed)
open MoveWallet.Text

theorem supported_taprootPayee (key : XOnlyKey) : (taprootPayee key).Supported :=
  ⟨by decide, Or.inl (Taproot.outputKey key).length_toList⟩

/-! ## Keys in bytes -/

theorem readKey_compressed (key : CurveKey) :
    Address.readKey key.compressed.toList = .ok key.xOnly := by
  rw [Address.readKey, if_pos key.compressed.length_toList, ofCompressed?_compressed]

theorem readKey_bytes (key : XOnlyKey) : Address.readKey key.bytes.toList = .ok key := by
  have size : key.bytes.toList.length = 32 := key.bytes.length_toList
  have short : ¬ key.bytes.toList.length = 33 := by omega
  rw [Address.readKey, if_neg short, if_pos size, ofBytes?_bytes]

/-- A key that is read has an address on every network. -/
theorem ofPublicKey_of_readKey {bs : List UInt8} {key : XOnlyKey}
    (h : Address.readKey bs = .ok key) (n : Network) :
    Address.ofPublicKey bs n = .ok (Address.ofKey key n) := by
  have made : Address.ofWitnessProgram 1 (Taproot.outputKey key).toList n =
      .ok (Address.ofKey key n) :=
    Address.ofWitnessProgram_eq_ok.mpr ⟨supported_taprootPayee key, rfl⟩
  rw [Address.ofPublicKey, h, Wire.ok_bind, made]

/-! ## Native addresses -/

theorem wrapped_witness (version : UInt8) (program : List UInt8) :
    (Payee.witness version program).wrapped =
      AddressKind.witness.byte :: version :: program := rfl

/-- The bytes that are laid out without the address are its wrapped bytes. -/
theorem taprootWrapped_eq (key : XOnlyKey) :
    taprootWrapped key = (taprootPayee key).wrapped := by
  rw [taprootWrapped, taprootPayee, wrapped_witness]

/-- The owner of the address of a key is that of the key. -/
theorem account_taprootPayee (key : XOnlyKey) :
    (taprootPayee key).account = taprootAccount key := by
  rw [Payee.account, taprootAccount, taprootWrapped_eq]

theorem account_ofKey (key : XOnlyKey) (n : Network) :
    (Address.ofKey key n).account = taprootAccount key := by
  rw [Address.ofKey, Address.ofPayee, Address.account, account_taprootPayee]

/-! ## Texts -/

/-- The address of a key is read as one that pays to the key, under any hint. -/
theorem parse_ofKey (key : XOnlyKey) (n hint : Network) :
    ∃ a, Address.parse (Address.ofKey key n).text hint = .ok a ∧ a.payee = taprootPayee key ∧
      a.account = taprootAccount key := by
  obtain ⟨found, -, read⟩ := parse_write_witness (supported_taprootPayee key) n hint
  exact ⟨_, read, rfl, account_taprootPayee key⟩

/-- The text of the address of a key has at most 64 bytes. -/
theorem byteLength_ofKey_le (key : XOnlyKey) (n : Network) :
    Utf8.byteLength (Address.ofKey key n).text ≤ 64 := by
  obtain ⟨-, -, short, -, -⟩ := hrp_facts n
  obtain ⟨-, most⟩ := length_witnessGroups (supported_taprootPayee key)
  have length := byteLength_write (variantOf 1) n (witnessGroups 1 (Taproot.outputKey key).toList)
  have written : (Address.ofKey key n).text =
      Bech32.write (variantOf 1) n.hrp (witnessGroups 1 (Taproot.outputKey key).toList) := rfl
  rw [written, length]
  omega

end MoveWallet.Bitcoin
