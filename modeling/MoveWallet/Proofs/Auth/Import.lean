/-
# MoveWallet.Proofs.Auth.Import — which key is imported from secret bytes

Bytes are imported as the key of a scheme whose secret the first 32 of them are, if there are as many
as the scheme allows (`Imported`).  That says which key it is (`Imported.unique`), so the check of a
new key, which looks for a public key behind the seed, cannot change what is imported, only refuse it
(`ofSecretBytes_eq_ok_iff_imported`).
-/
import MoveWallet.Proofs.Auth.Key
import MoveWallet.Proofs.Wire.Answer

namespace MoveWallet.Auth.Keypair

set_option autoImplicit false

open MoveWallet.Bytes.Endian
open MoveWallet.Bytes.Fixed
open MoveWallet.Curve
open MoveWallet.Wire (bind_eq_ok)

variable {k k' : Keypair} {scheme : Scheme} {bs : List UInt8} {skip : Bool}

/-! ## The check of a new key -/

/-- The key verifies its own signature of the message that new keys have to sign. -/
def VerifiesItself (k : Keypair) : Prop :=
  k.publicKey.verify checkMessage (k.sign checkMessage) = true

/-- The public key that the signature of a new key is verified with: the one behind the seed, if the
secret is long enough to have one, and otherwise its own. -/
def checkKey (k : Keypair) (bs : List UInt8) : Except AuthError PublicKey :=
  if bs.length = 64 then PublicKey.ofBytes .ed25519 (bs.drop 32) else .ok k.publicKey

/-- There is a public key to verify the signature of a new key with, and it does. -/
def Validated (k : Keypair) (bs : List UInt8) : Prop :=
  ∃ key, k.checkKey bs = .ok key ∧ key.verify checkMessage (k.sign checkMessage) = true

theorem validated_iff (size : bs.length = 32) : k.Validated bs ↔ k.VerifiesItself := by
  have own : k.checkKey bs = .ok k.publicKey := if_neg (by omega)
  simp [Validated, VerifiesItself, own]

theorem selfCheck_eq_ok_iff {key : PublicKey} :
    selfCheck k key = .ok k' ↔
      k = k' ∧ key.verify checkMessage (k.sign checkMessage) = true := by
  rw [selfCheck]
  split_ifs with verified
  · simp [verified]
  · simp [verified]

/-- A key that is checked, unless the check is skipped, is that key. -/
theorem checked_eq_ok_iff :
    (if skip = true then .ok k else k.checkKey bs >>= selfCheck k) = .ok k' ↔
      k = k' ∧ (skip = false → k.Validated bs) := by
  cases skip with
  | true => simp
  | false =>
    simp only [Bool.false_eq_true, if_false, bind_eq_ok, selfCheck_eq_ok_iff, forall_const, Validated]
    constructor
    · rintro ⟨key, isKey, same, verified⟩
      exact ⟨same, key, isKey, verified⟩
    · rintro ⟨same, key, isKey, verified⟩
      exact ⟨key, isKey, same, verified⟩

/-! ## Secrets -/

/-- The key is of the scheme, its secret is the first 32 bytes, and there are no more but for those of
a public key behind the seed of the first scheme. -/
structure Imported (scheme : Scheme) (bs : List UInt8) (k : Keypair) : Prop where
  scheme_eq : k.scheme = scheme
  secret : k.secretBytes.toList = bs.take 32
  size : bs.length = 32 ∨ scheme = .ed25519 ∧ bs.length = 64

/-- A key is known by its scheme and its secret. -/
theorem eq_of_secretBytes (schemes : k.scheme = k'.scheme)
    (secrets : k.secretBytes = k'.secretBytes) : k = k' := by
  cases k with
  | ed25519 seed =>
    cases k' with
    | ed25519 seed' => exact congrArg ed25519 secrets
    | secp256k1 secret => cases schemes
  | secp256k1 secret =>
    cases k' with
    | ed25519 seed => cases schemes
    | secp256k1 secret' =>
      have size : secret.bytes.toList.length = 32 := secret.bytes.length_toList
      have bytes : secret'.bytes.toList = secret.bytes.toList :=
        congrArg FixedBytes.toList secrets.symm
      have read := (SecretNumber.ofBytes?_eq_some_iff size).mpr rfl
      rw [(SecretNumber.ofBytes?_eq_some_iff size).mpr bytes] at read
      exact congrArg secp256k1 (Option.some.inj read).symm

theorem Imported.unique (h : Imported scheme bs k) (h' : Imported scheme bs k') : k = k' := by
  refine eq_of_secretBytes (h.scheme_eq.trans h'.scheme_eq.symm) (FixedBytes.ext ?_)
  rw [h.secret, h'.secret]

/-- The first 32 bytes alone are imported as the whole. -/
theorem Imported.take (h : Imported scheme bs k) : Imported scheme (bs.take 32) k := by
  have length : 32 ≤ bs.length := by
    rcases h.size with size | ⟨-, size⟩
    · omega
    · omega
  refine ⟨h.scheme_eq, ?_, .inl ?_⟩
  · rw [h.secret, List.take_take, Nat.min_self]
  · rw [List.length_take, Nat.min_eq_left length]

/-- Secrets of the first scheme are all byte strings of the two lengths. -/
theorem exists_imported_ed25519 (size : bs.length = 32 ∨ bs.length = 64) :
    ∃ k, Imported .ed25519 bs k := by
  have length : (bs.take 32).length = 32 := by
    rw [List.length_take]
    omega
  exact ⟨ed25519 ⟨bs.take 32, length⟩, rfl, rfl, size.imp_right fun long => ⟨rfl, long⟩⟩

/-- Secrets of the second scheme are the 32 bytes of a number from one to below the order. -/
theorem exists_imported_secp256k1_iff :
    (∃ k, Imported .secp256k1 bs k) ↔
      bs.length = 32 ∧ 0 < ofBigEndian bs ∧ ofBigEndian bs < Secp256k1.order := by
  constructor
  · rintro ⟨k, schemes, secret, size | ⟨other, -⟩⟩
    · refine ⟨size, ?_⟩
      rw [List.take_of_length_le (Nat.le_of_eq size)] at secret
      cases k with
      | ed25519 seed => cases schemes
      | secp256k1 number =>
        have read := (SecretNumber.ofBytes?_eq_some_iff size).mpr secret
        exact (Option.dite_none_right_eq_some.mp read).1
    · cases other
  · rintro ⟨size, range⟩
    have read : SecretNumber.ofBytes? bs = some ⟨ofBigEndian bs, range.1, range.2⟩ := dif_pos range
    have secret := (SecretNumber.ofBytes?_eq_some_iff size).mp read
    refine ⟨secp256k1 ⟨_, range.1, range.2⟩, rfl, ?_, .inl size⟩
    rw [secretBytes, secret, List.take_of_length_le (Nat.le_of_eq size)]

/-! ## Import -/

/-- Bytes that are the secret of a key are imported as the key, unless its check fails. -/
theorem Imported.ofSecretBytes (h : Imported scheme bs k) (skip : Bool) :
    ofSecretBytes scheme bs skip =
      if skip = true then .ok k else k.checkKey bs >>= selfCheck k := by
  obtain ⟨rfl, secret, size⟩ := h
  rcases size with short | ⟨first, long⟩
  · have own : k.checkKey bs = .ok k.publicKey := if_neg (by omega)
    rw [List.take_of_length_le (Nat.le_of_eq short)] at secret
    cases k with
    | ed25519 seed =>
      have found : FixedBytes.ofList? 32 bs = some seed :=
        FixedBytes.ofList?_eq_some_iff.mpr secret.symm
      rw [own, Wire.ok_bind]
      simp only [scheme, Keypair.ofSecretBytes, importEd25519, found]
    | secp256k1 number =>
      have fits : ¬ bs.length ≠ secretLength := not_not.mpr short
      have found := (SecretNumber.ofBytes?_eq_some_iff short).mpr secret
      rw [own, Wire.ok_bind]
      simp only [scheme, Keypair.ofSecretBytes, importSecp256k1, fits, if_false, found]
  · cases k with
    | ed25519 seed =>
      have whole : FixedBytes.ofList? 32 bs = none := dif_neg (by omega)
      have found : FixedBytes.ofList? 32 (bs.take 32) = some seed :=
        FixedBytes.ofList?_eq_some_iff.mpr secret.symm
      have behind : (ed25519 seed).checkKey bs = PublicKey.ofBytes .ed25519 (bs.drop 32) :=
        if_pos long
      simp only [scheme, Keypair.ofSecretBytes, importEd25519, whole, long, if_true, found, behind]
    | secp256k1 number => cases first

/-- What is imported is the secret of some key. -/
theorem exists_imported (h : ofSecretBytes scheme bs skip = .ok k) :
    ∃ k', Imported scheme bs k' := by
  cases scheme with
  | ed25519 =>
    by_cases size : bs.length = 32 ∨ bs.length = 64
    · exact exists_imported_ed25519 size
    · obtain ⟨short, long⟩ := not_or.mp size
      have whole : FixedBytes.ofList? 32 bs = none := dif_neg short
      simp [ofSecretBytes, importEd25519, whole, long] at h
  | secp256k1 =>
    apply exists_imported_secp256k1_iff.mpr
    by_cases size : bs.length = 32
    · by_cases range : 0 < ofBigEndian bs ∧ ofBigEndian bs < Secp256k1.order
      · exact ⟨size, range⟩
      · have fits : bs.length = secretLength := size
        have refused : SecretNumber.ofBytes? bs = none := dif_neg range
        simp [ofSecretBytes, importSecp256k1, fits, refused] at h
    · have wrong : bs.length ≠ secretLength := size
      simp [ofSecretBytes, importSecp256k1, wrong] at h

/-- A key is imported from bytes if they are its secret and, unless it is skipped, its check does not
fail. -/
theorem ofSecretBytes_eq_ok_iff_imported :
    ofSecretBytes scheme bs skip = .ok k ↔
      Imported scheme bs k ∧ (skip = false → k.Validated bs) := by
  constructor
  · intro h
    obtain ⟨k', imported⟩ := exists_imported h
    rw [imported.ofSecretBytes, checked_eq_ok_iff] at h
    obtain ⟨rfl, validated⟩ := h
    exact ⟨imported, validated⟩
  · rintro ⟨imported, validated⟩
    rw [imported.ofSecretBytes, checked_eq_ok_iff]
    exact ⟨rfl, validated⟩

/-- From 32 bytes the key is imported whose secret they are, if it verifies its own signature. -/
theorem ofSecretBytes_eq_ok_iff (size : bs.length = 32) :
    ofSecretBytes scheme bs false = .ok k ↔
      selfCheck k k.publicKey = .ok k ∧ k.scheme = scheme ∧ k.secretBytes.toList = bs := by
  have whole : bs.take 32 = bs := List.take_of_length_le (Nat.le_of_eq size)
  rw [ofSecretBytes_eq_ok_iff_imported, validated_iff size, selfCheck_eq_ok_iff]
  constructor
  · rintro ⟨imported, verified⟩
    exact ⟨⟨rfl, verified rfl⟩, imported.scheme_eq, imported.secret.trans whole⟩
  · rintro ⟨⟨-, verified⟩, schemes, secret⟩
    exact ⟨⟨schemes, secret.trans whole.symm, .inl size⟩, fun _ => verified⟩

end MoveWallet.Auth.Keypair
