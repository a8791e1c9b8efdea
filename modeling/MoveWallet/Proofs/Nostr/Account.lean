/-
# MoveWallet.Proofs.Nostr.Account — every way from a key leads to one native address

The Bitcoin, the Nostr and the native address of a key start from the key without its parity, and
reading that key does not depend on the form that it is given in (`readKey_cons`): each coordinate of
a point belongs to a point of either parity.  A Nostr address makes its Bitcoin address from the
bytes of its key, which are read as that key (`toBitcoin_eq`).  So all of them are refused together,
for the same reason, or lead to one native address, also when their texts are read back
(`refused_or_leadsTo`).
-/
import MoveWallet.Auth.Keypair
import MoveWallet.Proofs.Bitcoin.Taproot

namespace MoveWallet.Nostr

set_option autoImplicit false

open MoveWallet.Auth (PublicKey Scheme)
open MoveWallet.Bitcoin (AddressError Network taprootAccount)
open MoveWallet.Bytes.Endian
open MoveWallet.Curve.Secp256k1

/-! ## Forms of a key -/

/-- The parity byte of a compressed key does not matter, nor whether it is there. -/
theorem readKey_cons {parity : UInt8} {xs : List UInt8} (known : parity = 2 ∨ parity = 3)
    (size : xs.length = 32) :
    Bitcoin.Address.readKey (parity :: xs) = Bitcoin.Address.readKey xs := by
  have flag : (parity == 2 || parity == 3) = true := by
    rcases known with rfl | rfl <;> rfl
  have compressed : CurveKey.ofCompressed? (parity :: xs) =
      CurveKey.ofCoordinate? (ofBigEndian xs) (parity == 3) := by
    rw [CurveKey.ofCompressed?, size, flag]
    rfl
  have long : (parity :: xs).length = 33 := congrArg (· + 1) size
  have short : xs.length ≠ 33 := by omega
  rw [Bitcoin.Address.readKey, if_pos long, compressed, Bitcoin.Address.readKey, if_neg short,
    if_pos size, XOnlyKey.ofBytes?, if_pos size]
  rcases alone : XOnlyKey.ofCoordinate? (ofBigEndian xs) with _ | key
  · rcases whole : CurveKey.ofCoordinate? (ofBigEndian xs) (parity == 3) with _ | k
    · rfl
    · rw [ofCoordinate?_xOnly whole] at alone
      cases alone
  · obtain ⟨k, whole, rfl⟩ := exists_of_xOnly alone (parity == 3)
    rw [whole]

/-- A key of 33 bytes is a compressed one. -/
theorem exists_of_readKey {bs : List UInt8} {key : XOnlyKey} (size : bs.length = 33)
    (h : Bitcoin.Address.readKey bs = .ok key) :
    ∃ parity xs, (parity = 2 ∨ parity = 3) ∧ xs.length = 32 ∧ bs = parity :: xs ∧
      ∃ k, CurveKey.ofCompressed? bs = some k ∧ k.xOnly = key := by
  rw [Bitcoin.Address.readKey, if_pos size] at h
  rcases read : CurveKey.ofCompressed? bs with _ | k
  · rw [read] at h
    cases h
  · rw [read] at h
    cases h
    obtain ⟨xs, length, rfl, -⟩ := exists_of_ofCompressed? read
    refine ⟨_, xs, ?_, length, rfl, k, rfl, rfl⟩
    cases k.odd
    · exact .inl rfl
    · exact .inr rfl

theorem length_of_readKey {bs : List UInt8} {key : XOnlyKey}
    (h : Bitcoin.Address.readKey bs = .ok key) : bs.length = 33 ∨ bs.length = 32 := by
  unfold Bitcoin.Address.readKey at h
  split_ifs at h with long short
  · exact .inl long
  · exact .inr short

/-- A key that is read has its coordinate in the last 32 bytes. -/
theorem ofBytes?_of_readKey {bs : List UInt8} {key : XOnlyKey}
    (h : Bitcoin.Address.readKey bs = .ok key) :
    XOnlyKey.ofBytes? (bs.drop (bs.length - 32)) = some key := by
  have alone : ∀ {xs : List UInt8}, xs.length = 32 → Bitcoin.Address.readKey xs = .ok key →
      XOnlyKey.ofBytes? xs = some key := by
    intro xs size read
    rw [Bitcoin.Address.readKey, if_neg (by omega), if_pos size] at read
    rcases found : XOnlyKey.ofBytes? xs with _ | k
    · rw [found] at read
      cases read
    · rw [found] at read
      cases read
      rfl
  rcases length_of_readKey h with long | short
  · obtain ⟨parity, xs, known, size, rfl, -⟩ := exists_of_readKey long h
    rw [readKey_cons known size] at h
    rw [long]
    exact alone size h
  · rw [short]
    exact alone short h

/-! ## Addresses of a key that is read -/

theorem ofPublicKey_of_readKey {bs : List UInt8} {key : XOnlyKey}
    (h : Bitcoin.Address.readKey bs = .ok key) :
    Address.ofPublicKey bs = .ok (Address.ofKey key) := by
  rw [Address.ofPublicKey, h]
  rfl

theorem view_of_readKey {bs : List UInt8} {key : XOnlyKey}
    (h : Bitcoin.Address.readKey bs = .ok key) (n : Network) :
    View.ofPublicKey bs n = .ok ⟨Bitcoin.Address.ofKey key n, Address.ofKey key,
      (Bitcoin.Address.ofKey key n).account⟩ := by
  rw [View.ofPublicKey, Bitcoin.ofPublicKey_of_readKey h, ofPublicKey_of_readKey h]
  rfl

/-- The Bitcoin address of a Nostr address is that of its key. -/
theorem toBitcoin_eq (a : Address) (n : Network) :
    a.toBitcoin n = .ok (Bitcoin.Address.ofKey a.key n) :=
  Bitcoin.ofPublicKey_of_readKey (Bitcoin.readKey_bytes a.key) n

/-! ## Texts -/

/-- A Nostr address is read back from its text. -/
theorem parse_ofKey (key : XOnlyKey) :
    Address.parse (Address.ofKey key).text = .ok (Address.ofKey key) := by
  have size : key.bytes.toList.length = 32 := key.bytes.length_toList
  have read : Bech32.read .bech32 (Address.ofKey key).text =
      .ok ⟨Address.hrp, Bech32.groupsOf key.bytes.toList⟩ := by
    refine Bech32.read_write .bech32 (by decide) (by decide) ?_
    rw [Bech32.length_groupsOf, size]
    decide
  have lower : String.ofList ((Address.ofKey key).text.toList.map Bech32.lower) =
      (Address.ofKey key).text := by
    rw [← Bech32.toList_toLower, String.ofList_toList]
    exact (Bech32.write_of_read read).symm
  simp only [Address.parse, read, ne_eq, not_true_eq_false, if_false, Bech32.Content.bytes,
    Bech32.bytesOf_groupsOf, size, ofBytes?_bytes, lower]
  rfl

/-! ## Native addresses -/

/-- Everything that starts from a key refuses these bytes for one reason. -/
structure Refused (bs : List UInt8) (e : AddressError) : Prop where
  bitcoin : ∀ n, Bitcoin.Address.ofPublicKey bs n = .error e
  nostr : Address.ofPublicKey bs = .error e
  view : ∀ n, View.ofPublicKey bs n = .error e

/-- Every way from the bytes of a key to a native address ends at `account`: through the Bitcoin
address on any network and through the Nostr address, as they are made and as they are read back from
their texts, through all addresses of the key at once, through the coordinate alone, and for a
compressed key through the public key that verifies signatures. -/
structure LeadsTo (bs : List UInt8) (account : Account.Address) : Prop where
  bitcoin : ∀ n, ∃ a, Bitcoin.Address.ofPublicKey bs n = .ok a ∧ a.account = account ∧
    ∀ hint, ∃ again, Bitcoin.Address.parse a.text hint = .ok again ∧ again.account = account
  nostr : ∃ a, Address.ofPublicKey bs = .ok a ∧ a.account = account ∧
    (∀ n, ∃ b, a.toBitcoin n = .ok b ∧ b.account = account) ∧
    ∃ again, Address.parse a.text = .ok again ∧ again.account = account
  view : ∀ n, ∃ v, View.ofPublicKey bs n = .ok v ∧ v.account = account ∧
    v.bitcoin.account = account ∧ v.nostr.account = account
  coordinate : ∃ key, XOnlyKey.ofBytes? (bs.drop (bs.length - 32)) = some key ∧
    taprootAccount key = account
  compressed : bs.length = 33 →
    ∃ key, PublicKey.ofBytes .secp256k1 bs = .ok key ∧ key.account = account

/-- The compressed key with the other parity. -/
def flipParity : List UInt8 → List UInt8
  | parity :: xs => (parity ^^^ 1) :: xs
  | [] => []

theorem refused_of_readKey {bs : List UInt8} {e : AddressError}
    (h : Bitcoin.Address.readKey bs = .error e) : Refused bs e where
  bitcoin n := by rw [Bitcoin.Address.ofPublicKey, h]; rfl
  nostr := by rw [Address.ofPublicKey, h]; rfl
  view n := by rw [View.ofPublicKey, Bitcoin.Address.ofPublicKey, h]; rfl

theorem leadsTo_of_readKey {bs : List UInt8} {key : XOnlyKey}
    (h : Bitcoin.Address.readKey bs = .ok key) : LeadsTo bs (taprootAccount key) where
  bitcoin n := by
    refine ⟨Bitcoin.Address.ofKey key n, Bitcoin.ofPublicKey_of_readKey h n,
      Bitcoin.account_ofKey key n, fun hint => ?_⟩
    obtain ⟨again, read, -, account⟩ := Bitcoin.parse_ofKey key n hint
    exact ⟨again, read, account⟩
  nostr := by
    refine ⟨Address.ofKey key, ofPublicKey_of_readKey h, rfl, fun n => ?_, Address.ofKey key,
      parse_ofKey key, rfl⟩
    exact ⟨_, toBitcoin_eq (Address.ofKey key) n, Bitcoin.account_ofKey key n⟩
  view n :=
    ⟨_, view_of_readKey h n, Bitcoin.account_ofKey key n, Bitcoin.account_ofKey key n, rfl⟩
  coordinate := ⟨key, ofBytes?_of_readKey h, rfl⟩
  compressed size := by
    obtain ⟨-, -, -, -, -, k, read, rfl⟩ := exists_of_readKey size h
    refine ⟨.secp256k1 k, ?_, rfl⟩
    have length : ¬ bs.length ≠ Scheme.secp256k1.publicKeyLength := not_not.mpr size
    simp only [PublicKey.ofBytes, if_neg length, read]

/-- Bytes are refused as a key everywhere and for one reason, or every way from them leads to one
native address.  Then the key with the other parity and the coordinate without parity lead there
too.  The bytes of every key lead to the account of its owner. -/
theorem refused_or_leadsTo :
    (∀ bs, (∃ e, Refused bs e) ∨
      ∃ account, LeadsTo bs account ∧
        (bs.length = 33 → LeadsTo (flipParity bs) account ∧ LeadsTo (bs.drop 1) account)) ∧
    (∀ key : CurveKey, LeadsTo key.compressed.toList (PublicKey.secp256k1 key).account) := by
  refine ⟨fun bs => ?_, fun key => leadsTo_of_readKey (Bitcoin.readKey_compressed key)⟩
  rcases read : Bitcoin.Address.readKey bs with e | key
  · exact .inl ⟨e, refused_of_readKey read⟩
  · refine .inr ⟨taprootAccount key, leadsTo_of_readKey read, fun size => ?_⟩
    obtain ⟨parity, xs, known, length, rfl, -⟩ := exists_of_readKey size read
    have flipped : parity ^^^ 1 = 2 ∨ parity ^^^ 1 = 3 := by
      rcases known with rfl | rfl
      · exact .inr rfl
      · exact .inl rfl
    rw [readKey_cons known length] at read
    refine ⟨leadsTo_of_readKey ?_, leadsTo_of_readKey read⟩
    rw [flipParity, readKey_cons flipped length, read]

end MoveWallet.Nostr

namespace MoveWallet.Auth.SecretNumber

set_option autoImplicit false

open MoveWallet.Bitcoin (readKey_compressed)

/-! ## Addresses of a secret

They are those of its public key in bytes, which is always read. -/

variable (s : SecretNumber) (n : Bitcoin.Network)

theorem ofPublicKey_bitcoinAddress :
    Bitcoin.Address.ofPublicKey s.publicKey.compressed.toList n = .ok (s.bitcoinAddress n) :=
  Bitcoin.ofPublicKey_of_readKey (readKey_compressed s.publicKey) n

theorem ofPublicKey_nostrAddress :
    Nostr.Address.ofPublicKey s.publicKey.compressed.toList = .ok s.nostrAddress :=
  Nostr.ofPublicKey_of_readKey (readKey_compressed s.publicKey)

theorem ofPublicKey_view :
    Nostr.View.ofPublicKey s.publicKey.compressed.toList n = .ok (s.view n) :=
  Nostr.view_of_readKey (readKey_compressed s.publicKey) n

end MoveWallet.Auth.SecretNumber
