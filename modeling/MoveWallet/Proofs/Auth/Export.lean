/-
# MoveWallet.Proofs.Auth.Export — secrets survive import and export

An exported key is the flag of its scheme and its 32 secret bytes, and these say which key it is.  So
a key that verifies its own signature is imported again, as itself, from its text in either case
(`ofExportText_exportText`), as it is from the bytes that it came from.
-/
import MoveWallet.Proofs.Auth.Spelling

namespace MoveWallet.Auth.Keypair

set_option autoImplicit false

open MoveWallet.Bech32 (OneCase)
open MoveWallet.Bytes.Endian
open MoveWallet.Bytes.Fixed
open MoveWallet.Curve

/-- The exported text is in lower case and short enough to be read. -/
theorem exportText_facts (k : Keypair) :
    OneCase k.exportText.toList ∧ k.exportText.toLower = k.exportText ∧
      k.exportText.toList.length ≤ Bech32.maxLength := by
  have groups := Bech32.length_groupsOf (k.scheme.flag :: k.secretBytes.toList)
  rw [length_exported] at groups
  have short : k.exportText.toList.length ≤ Bech32.maxLength := by
    rw [exportText, Bech32.writeBytes, Bech32.length_write, groups]
    decide
  have read : Bech32.read .bech32 k.exportText =
      .ok ⟨secretHrp, Bech32.groupsOf (k.scheme.flag :: k.secretBytes.toList)⟩ :=
    Bech32.read_write .bech32 (by decide) (by decide) (by rw [groups]; decide)
  exact ⟨Bech32.oneCase_of_read read, (Bech32.write_of_read read).symm, short⟩

/-- A key that verifies itself is imported from the text that it is exported as, in either case. -/
theorem ofExportText_exportText {k : Keypair} (verified : k.VerifiesItself) :
    ofExportText k.exportText = .ok k ∧ ofExportText k.exportText.toUpper = .ok k := by
  obtain ⟨one, lower, -⟩ := exportText_facts k
  have checked : selfCheck k k.publicKey = .ok k := selfCheck_eq_ok_iff.mpr ⟨rfl, verified⟩
  have spelled : Bech32.spell .bech32 secretHrp (k.scheme.flag :: k.secretBytes.toList) [false] =
      k.exportText := by
    rw [exportText, Bech32.writeBytes_eq_spell, length_exported]
    rfl
  constructor
  · exact ofExportText_eq_ok_iff.mpr ⟨checked, one, [false], .inl rfl, by rw [spelled, lower]⟩
  · refine ofExportText_eq_ok_iff.mpr
      ⟨checked, Bech32.oneCase_toUpper _, [false], .inl rfl, ?_⟩
    rw [Bech32.toLower_toUpper, spelled, lower]

/-- Whatever is imported, checked or not, is the key of the scheme whose secret the first 32 bytes
are, and there are no other bytes but for a public key behind the seed of the first scheme.  The check
can only refuse: without it the same key is imported, and with it no other.  So is it from the first
32 bytes alone, and, if it verifies its own signature, also with the check and from its exported
text, in either case.  A key that is checked and has no other public key with it does.  Of the second
scheme, the secrets that are imported without the check are the 32 bytes of the numbers from one to
below the order. -/
theorem import_keeps_secret :
    (∀ (scheme : Scheme) (bs : List UInt8) (skip : Bool) (k : Keypair),
      ofSecretBytes scheme bs skip = .ok k →
        k.scheme = scheme ∧ k.secretBytes.toList = bs.take 32 ∧
        (bs.length = 32 ∨ scheme = .ed25519 ∧ bs.length = 64) ∧
        ofSecretBytes scheme bs true = .ok k ∧
        (∀ (other : Bool) (k' : Keypair), ofSecretBytes scheme bs other = .ok k' → k' = k) ∧
        ofSecretBytes scheme (bs.take 32) true = .ok k ∧
        k.exportText.toList.length ≤ Bech32.maxLength ∧
        (skip = false ∧ bs.length = 32 → k.VerifiesItself) ∧
        (k.VerifiesItself →
          ofSecretBytes scheme (bs.take 32) false = .ok k ∧
          ofExportText k.exportText = .ok k ∧ ofExportText k.exportText.toUpper = .ok k)) ∧
    (∀ bs : List UInt8, (∃ k, ofSecretBytes .secp256k1 bs true = .ok k) ↔
      bs.length = 32 ∧ 0 < ofBigEndian bs ∧ ofBigEndian bs < Secp256k1.order) := by
  constructor
  · intro scheme bs skip k h
    obtain ⟨imported, validated⟩ := ofSecretBytes_eq_ok_iff_imported.mp h
    have short : (bs.take 32).length = 32 := by
      rcases imported.take.size with size | ⟨-, size⟩
      · exact size
      · rw [List.length_take] at size
        omega
    refine ⟨imported.scheme_eq, imported.secret, imported.size, imported.ofSecretBytes true, ?_,
      imported.take.ofSecretBytes true, (exportText_facts k).2.2, ?_, ?_⟩
    · intro other k' h'
      exact (ofSecretBytes_eq_ok_iff_imported.mp h').1.unique imported
    · rintro ⟨checked, size⟩
      exact (validated_iff size).mp (validated checked)
    · intro verified
      refine ⟨ofSecretBytes_eq_ok_iff_imported.mpr ⟨imported.take, fun _ => ?_⟩,
        ofExportText_exportText verified⟩
      exact (validated_iff short).mpr verified
  · intro bs
    rw [← exists_imported_secp256k1_iff]
    refine exists_congr fun k => ?_
    rw [ofSecretBytes_eq_ok_iff_imported]
    simp

/-- A seed with bytes behind it that are not its public key is imported without the check, and again
from its text in capitals; the last secret number is imported, and the order is not. -/
theorem import_keeps_secret_of_seven :
    (∃ k, ofSecretBytes .ed25519 (bigEndian 32 7 ++ List.replicate 32 0) true = .ok k ∧
      k.secretBytes.toList = bigEndian 32 7 ∧
      ofSecretBytes .ed25519 (bigEndian 32 7) false = .ok k ∧
      ofExportText k.exportText.toUpper = .ok k) ∧
    (∃ k, ofSecretBytes .secp256k1 (bigEndian 32 (Secp256k1.order - 1)) true = .ok k) ∧
    ¬ ∃ k, ofSecretBytes .secp256k1 (bigEndian 32 Secp256k1.order) true = .ok k := by
  obtain ⟨keeps, range⟩ := import_keeps_secret
  refine ⟨⟨.ed25519 (FixedBytes.bigEndian 32 7), ?_⟩, (range _).mpr (by decide +kernel), ?_⟩
  · have verified : (ed25519 (FixedBytes.bigEndian 32 7)).VerifiesItself := by
      unfold VerifiesItself
      decide +kernel
    have imported : ofSecretBytes .ed25519 (bigEndian 32 7 ++ List.replicate 32 0) true =
        .ok (ed25519 (FixedBytes.bigEndian 32 7)) := by decide +kernel
    obtain ⟨-, secret, -, -, -, -, -, -, again⟩ := keeps _ _ _ _ imported
    obtain ⟨alone, -, capital⟩ := again verified
    exact ⟨imported, secret, alone, capital⟩
  · rw [range]
    decide +kernel

end MoveWallet.Auth.Keypair
