/-
# MoveWallet.Proofs.Auth.Spelling — the texts that name one address or one key

Native addresses, Nostr addresses and exported secrets are bech32 text of bytes, and their readers
take the bytes and do not look at the bits behind them.  So each of them has several texts, that
differ in these bits and in the checksum (`accepted_spellings`): an address has sixteen, for its four
bits; an exported secret has two of the usual length, and 64 with one group more.  Only the text with
zeros, in the usual length, is the one that is written.  `different_texts_of_one_value` are two texts
of a native and of a Nostr address, and three of one exported secret.
-/
import MoveWallet.Auth.Keypair
import MoveWallet.Proofs.Account.AddressForms
import MoveWallet.Proofs.Auth.Import
import MoveWallet.Proofs.Bitcoin.Taproot
import MoveWallet.Proofs.Wire.Answer

namespace MoveWallet.Nostr.Address

set_option autoImplicit false

open MoveWallet.Bech32 (OneCase spell)
open MoveWallet.Curve.Secp256k1 (XOnlyKey ofBytes?_eq_some_iff)

variable {text : String} {a : Address}

/-! ## Nostr addresses -/

/-- A Nostr address is read from the texts that spell its key, and keeps the text in lower case. -/
theorem parse_eq_ok_iff :
    parse text = .ok a ↔
      a.text = text.toLower ∧ OneCase text.toList ∧
        ∃ pad, pad.length = 4 ∧ spell .bech32 hrp a.key.bytes.toList pad = text.toLower := by
  have lower : String.ofList (text.toList.map Bech32.lower) = text.toLower := by
    rw [← Bech32.toList_toLower, String.ofList_toList]
  have read : parse text = .ok a ↔ a.text = text.toLower ∧
      ∃ c, Bech32.read .bech32 text = .ok c ∧ c.hrp = hrp ∧ c.bytes = a.key.bytes.toList := by
    rw [parse, lower]
    rcases Bech32.read .bech32 text with e | c
    · simp
    · by_cases same : c.hrp = hrp
      · by_cases long : c.bytes.length = 32
        · simp only [same, long, ne_eq, not_true_eq_false, if_false, ← ofBytes?_eq_some_iff,
            Except.ok.injEq, exists_eq_left', true_and]
          obtain ⟨written, key⟩ := a
          rcases XOnlyKey.ofBytes? c.bytes with _ | found
          · simp
          · simp [eq_comm]
        · simp [same, long, ← ofBytes?_eq_some_iff, XOnlyKey.ofBytes?]
      · simp [same]
  rw [read, Bech32.exists_read_iff (by decide) (by decide) a.key.bytes.length_toList (by decide)]
  simp only [Bech32.leftover_32_iff]

/-- The address of the key in 32 bytes has the text that is written of them. -/
theorem ofPublicKey_bytes_eq_ok_iff :
    ofPublicKey a.key.bytes.toList = .ok a ↔
      Bech32.writeBytes .bech32 hrp a.key.bytes.toList = a.text := by
  rw [ofPublicKey, Bitcoin.readKey_bytes]
  obtain ⟨written, key⟩ := a
  simp [ofKey]

end MoveWallet.Nostr.Address

namespace MoveWallet.Auth

set_option autoImplicit false

open MoveWallet.Bech32 (OneCase spell)
open MoveWallet.Curve
open MoveWallet.Wire

/-! ## Exported secrets -/

namespace Keypair

variable {k : Keypair}

theorem length_exported (k : Keypair) : (k.scheme.flag :: k.secretBytes.toList).length = 33 := by
  rw [List.length_cons, k.secretBytes.length_toList]

/-- A key is read from the texts that spell its flag and its secret, if it verifies its own
signature. -/
theorem ofExportText_eq_ok_iff {text : String} :
    ofExportText text = .ok k ↔
      selfCheck k k.publicKey = .ok k ∧ OneCase text.toList ∧
        ∃ pad, (pad.length = 1 ∨ pad.length = 6) ∧
          spell .bech32 secretHrp (k.scheme.flag :: k.secretBytes.toList) pad = text.toLower := by
  have read : ofExportText text = .ok k ↔ selfCheck k k.publicKey = .ok k ∧
      ∃ c, Bech32.read .bech32 text = .ok c ∧ c.hrp = secretHrp ∧
        c.bytes = k.scheme.flag :: k.secretBytes.toList := by
    rw [ofExportText]
    rcases Bech32.read .bech32 text with e | c
    · simp
    · by_cases same : c.hrp = secretHrp
      · simp only [same, ne_eq, not_true_eq_false, if_false, Except.ok.injEq, exists_eq_left',
          true_and]
        rcases c.bytes with _ | ⟨flag, secret⟩
        · simp
        · simp only [List.cons.injEq]
          constructor
          · intro h
            obtain ⟨scheme, known, checked⟩ := bind_eq_ok.mp h
            split at checked
            · cases checked
            · rename_i long
              obtain ⟨valid, rfl, bytes⟩ :=
                (ofSecretBytes_eq_ok_iff (not_not.mp long)).mp checked
              exact ⟨valid, (Scheme.flag_of_ofFlag known).symm, bytes.symm⟩
          · rintro ⟨checked, rfl, rfl⟩
            have long : ¬ k.secretBytes.toList.length ≠ secretLength :=
              not_not.mpr k.secretBytes.length_toList
            rw [Scheme.ofFlag_flag, ok_bind, if_neg long]
            exact (ofSecretBytes_eq_ok_iff (not_not.mp long)).mpr ⟨checked, rfl, rfl⟩
      · simp [same]
  rw [read, Bech32.exists_read_iff (by decide) (by decide) (length_exported k) (by decide)]
  simp only [Bech32.leftover_33_iff]

end Keypair

/-! ## All readers -/

/-- A text is read as an address or a key exactly if it spells the bytes, in one case and with any
bits behind them.  It is the text that is written of the address or the key, but for its case,
exactly if these bits are zeros and no group more than is needed. -/
theorem accepted_spellings (text : String) :
    (∀ a : Account.Address, Account.Address.ofBech32 text = .ok a ↔
      OneCase text.toList ∧ ∃ pad, pad.length = 4 ∧
        spell .bech32m Account.Address.hrp a.bytes.toList pad = text.toLower ∧
        (a.toBech32 = text.toLower ↔ pad = [false, false, false, false])) ∧
    (∀ a : Nostr.Address, Nostr.Address.parse text = .ok a ↔
      a.text = text.toLower ∧ OneCase text.toList ∧ ∃ pad, pad.length = 4 ∧
        spell .bech32 Nostr.Address.hrp a.key.bytes.toList pad = text.toLower ∧
        (Nostr.Address.ofPublicKey a.key.bytes.toList = .ok a ↔
          pad = [false, false, false, false])) ∧
    (∀ k : Keypair, Keypair.ofExportText text = .ok k ↔
      k.selfCheck k.publicKey = .ok k ∧ OneCase text.toList ∧
        ∃ pad, (pad.length = 1 ∨ pad.length = 6) ∧
          spell .bech32 Keypair.secretHrp (k.scheme.flag :: k.secretBytes.toList) pad =
            text.toLower ∧
          (k.exportText = text.toLower ↔ pad = [false])) := by
  refine ⟨?_, ?_, ?_⟩
  · intro a
    rw [Account.Address.ofBech32_eq_ok_iff,
      Bech32.exists_spelled_iff a.bytes.length_toList fun _ => Bech32.leftover_32_iff]
    rfl
  · intro a
    rw [Nostr.Address.parse_eq_ok_iff, Nostr.Address.ofPublicKey_bytes_eq_ok_iff]
    refine and_congr_right fun named => and_congr_right fun _ => ?_
    rw [Bech32.exists_spelled_iff a.key.bytes.length_toList fun _ => Bech32.leftover_32_iff, named]
    rfl
  · intro k
    rw [Keypair.ofExportText_eq_ok_iff,
      Bech32.exists_spelled_iff (Keypair.length_exported k) fun _ => Bech32.leftover_33_iff]
    rfl

/-- The key whose secret is 32 times the byte 17. -/
def repeatedKey : Keypair :=
  .secp256k1 ⟨0x1111111111111111111111111111111111111111111111111111111111111111, by decide,
    by decide⟩

/-- The zero address and the generator of the curve are named by one more text each than the one that
is written of them, and an exported secret by two: one with another bit behind the bytes, and one with
one more group of them. -/
theorem different_texts_of_one_value :
    (∃ text, Account.Address.ofBech32 text = .ok .zero ∧
      Account.Address.zero.toBech32 ≠ text.toLower) ∧
    (∃ text a, Nostr.Address.parse text = .ok a ∧
      Nostr.Address.ofPublicKey a.key.bytes.toList ≠ .ok a) ∧
    (∃ text longer k, Keypair.ofExportText text = .ok k ∧ k.exportText ≠ text.toLower ∧
      Keypair.ofExportText longer = .ok k ∧ k.exportText ≠ longer.toLower) := by
  refine ⟨⟨"rooch1qqqqqqqqqqqqqqqqqqqqqqqqqqqqqqqqqqqqqqqqqqqqqqqqqqqp2s5gyp", ?_⟩,
    ⟨"npub10xlxvlhemja6c4dqv22uapctqupfhlxm9h8z3k2e72q4k9hcz7vpuquv8l",
      ⟨"npub10xlxvlhemja6c4dqv22uapctqupfhlxm9h8z3k2e72q4k9hcz7vpuquv8l",
        Secp256k1.generatorKey.xOnly⟩, ?_⟩,
    "roochsecretkey1qyg3zyg3zyg3zyg3zyg3zyg3zyg3zyg3zyg3zyg3zyg3zyg3zyg3r0j5hkz",
    "roochsecretkey1qyg3zyg3zyg3zyg3zyg3zyg3zyg3zyg3zyg3zyg3zyg3zyg3zyg3zqzytshl",
    repeatedKey, ?_⟩
  · decide +kernel
  · decide +kernel
  · -- the key signs and verifies once for both texts
    have checked : repeatedKey.selfCheck repeatedKey.publicKey = .ok repeatedKey := by
      decide +kernel
    refine ⟨Keypair.ofExportText_eq_ok_iff.mpr ⟨checked, ?_, [true], ?_⟩, ?_,
      Keypair.ofExportText_eq_ok_iff.mpr ⟨checked, ?_, List.replicate 6 false, ?_⟩, ?_⟩
    · exact .inl (by decide)
    · decide +kernel
    · decide +kernel
    · exact .inl (by decide)
    · decide +kernel
    · decide +kernel

end MoveWallet.Auth
