/-
# MoveWallet.Proofs.Bitcoin.Canonical — address text and wrapped bytes say the same

An address that is read has a supported payee, and its text is the one that is written for its
network and payee, but for the case of a witness text (`write_of_parse`).  An address that is written
is read back under the hint of its network (`parse_write`), unless it is a base58 text that happens
to be a bech32 text too: bech32 is tried first.  `text_wrapped_inverse` puts this together with the
wrapped bytes.
-/
import MoveWallet.Proofs.Base58.Text
import MoveWallet.Proofs.Bitcoin.Witness

namespace MoveWallet.Bitcoin

set_option autoImplicit false

open MoveWallet.Bytes.Fixed
open MoveWallet.Text

/-! ## Version bytes -/

theorem scriptByte_ne (n : Network) : n.scriptByte ≠ n.pubkeyByte := by
  cases n <;> decide

theorem ofVersionByte?_pubkeyByte (n : Network) :
    Network.ofVersionByte? n.pubkeyByte n = some n := by
  cases n <;> rfl

theorem ofVersionByte?_scriptByte (n : Network) :
    Network.ofVersionByte? n.scriptByte n = some n := by
  cases n <;> rfl

theorem byte_of_ofVersionByte? {byte : UInt8} {hint n : Network}
    (h : Network.ofVersionByte? byte hint = some n) :
    byte = n.pubkeyByte ∨ byte = n.scriptByte := by
  unfold Network.ofVersionByte? at h
  split_ifs at h with main test fallback
  · cases h
    simpa [Network.pubkeyByte, Network.scriptByte, Network.isMain] using main
  · cases h
    simpa [Network.pubkeyByte, Network.scriptByte, Network.isMain] using test
  · cases h
    simpa [Network.pubkeyByte, Network.scriptByte, fallback] using test

/-! ## Base58 -/

theorem ofBase58_eq_ok {text : String} {hint : Network} {a : Address} :
    Address.ofBase58 text hint = .ok a ↔
      ∃ (byte : UInt8) (hash : FixedBytes 20), Base58.readChecked text = .ok (byte :: hash.toList) ∧
        ∃ n, Network.ofVersionByte? byte hint = some n ∧
          a = ⟨text, n, if byte = n.pubkeyByte then .pubkeyHash hash else .scriptHash hash⟩ := by
  constructor
  · intro h
    rcases read : Base58.readChecked text with e | bs
    · simp [Address.ofBase58, read] at h
    rcases bs with _ | ⟨byte, rest⟩
    · simp [Address.ofBase58, read] at h
    rcases fits : FixedBytes.ofList? 20 rest with _ | hash
    · simp [Address.ofBase58, read, fits] at h
    rcases network : Network.ofVersionByte? byte hint with _ | n
    · simp [Address.ofBase58, read, fits, network] at h
    simp only [Address.ofBase58, read, fits, network, Except.ok.injEq] at h
    rw [FixedBytes.ofList?_eq_some_iff.mp fits]
    exact ⟨byte, hash, rfl, n, network, h.symm⟩
  · rintro ⟨byte, hash, read, n, network, rfl⟩
    simp only [Address.ofBase58, read, FixedBytes.ofList?_toList, network]

theorem write_of_ofBase58 {text : String} {hint : Network} {a : Address}
    (h : Address.ofBase58 text hint = .ok a) :
    a.payee.Supported ∧ a.payee.kind ≠ .witness ∧ Address.write a.network a.payee = text := by
  obtain ⟨byte, hash, read, n, network, rfl⟩ := ofBase58_eq_ok.mp h
  have written := Base58.writeChecked_of_readChecked read
  by_cases toKey : byte = n.pubkeyByte
  · rw [if_pos toKey]
    refine ⟨trivial, by simp [Payee.kind], ?_⟩
    rw [← written, toKey]
    rfl
  · have toScript := (byte_of_ofVersionByte? network).resolve_left toKey
    rw [if_neg toKey]
    refine ⟨trivial, by simp [Payee.kind], ?_⟩
    rw [← written, toScript]
    rfl

theorem ofBase58_write {payee : Payee} (n : Network) (h : payee.kind ≠ .witness) :
    Address.ofBase58 (Address.write n payee) n = .ok (Address.ofPayee n payee) := by
  rw [ofBase58_eq_ok]
  cases payee with
  | pubkeyHash hash =>
    refine ⟨n.pubkeyByte, hash, Base58.readChecked_writeChecked _, n,
      ofVersionByte?_pubkeyByte n, ?_⟩
    rw [if_pos rfl]
    rfl
  | scriptHash hash =>
    refine ⟨n.scriptByte, hash, Base58.readChecked_writeChecked _, n,
      ofVersionByte?_scriptByte n, ?_⟩
    rw [if_neg (scriptByte_ne n)]
    rfl
  | witness => exact absurd rfl h

theorem addressLength_base58 {payee : Payee} (n : Network) (h : payee.kind ≠ .witness) :
    AddressLength (Address.write n payee) := by
  have inside : ∀ (byte : UInt8) (hash : FixedBytes 20),
      AddressLength (Base58.writeChecked (byte :: hash.toList)) := by
    intro byte hash
    have size : (byte :: hash.toList ++ Base58.checksum (byte :: hash.toList)).length = 25 := by
      rw [List.length_append, Base58.length_checksum, List.length_cons, hash.length_toList]
    have lengths := Base58.length_write (byte :: hash.toList ++ Base58.checksum (byte :: hash.toList))
    rw [size] at lengths
    rw [AddressLength, Base58.writeChecked, Base58.byteLength_write, Address.textLengths]
    omega
  cases payee with
  | pubkeyHash hash => exact inside n.pubkeyByte hash
  | scriptHash hash => exact inside n.scriptByte hash
  | witness => exact absurd rfl h

/-! ## Both -/

/-- The text of an address is the one that is written for it, in any case if it is a witness text. -/
theorem write_of_parse {text : String} {hint : Network} {a : Address}
    (h : Address.parse text hint = .ok a) :
    a.payee.Supported ∧ Address.write a.network a.payee =
      if a.payee.kind = .witness then text.toLower else text := by
  simp only [Address.parse] at h
  split_ifs at h
  rcases bech32 : Address.readBech32? text with _ | ⟨variant, content⟩
  · rw [bech32] at h
    obtain ⟨supported, base58, written⟩ := write_of_ofBase58 h
    rw [if_neg base58]
    exact ⟨supported, written⟩
  · rw [bech32] at h
    obtain ⟨supported, witness, written⟩ :=
      write_of_ofBech32 (readBech32?_eq_some.mp bech32) h
    rw [if_pos witness]
    exact ⟨supported, written⟩

/-- An address is read back from its text under the hint of its network, unless it is base58 and its
text is a bech32 text as well. -/
theorem parse_write {payee : Payee} {n : Network} (supported : payee.Supported)
    (apart : payee.kind = .witness ∨
      ∀ v content, Bech32.read v (Address.write n payee) ≠ .ok content) :
    Address.parse (Address.write n payee) n = .ok (Address.ofPayee n payee) := by
  by_cases witness : payee.kind = .witness
  · cases payee with
    | witness version program =>
      obtain ⟨found, network, read⟩ := parse_write_witness supported n n
      rw [ofHrp?_self] at network
      cases network
      exact read
    | pubkeyHash => cases witness
    | scriptHash => cases witness
  · have other : Address.readBech32? (Address.write n payee) = none := by
      rw [Option.eq_none_iff_forall_ne_some]
      rintro ⟨v, content⟩ read
      exact apart.resolve_left witness v content (readBech32?_eq_some.mp read)
    rw [parse_of_base58 (addressLength_base58 n witness) other]
    exact ofBase58_write n witness

/-- Address text and wrapped bytes determine each other.  An address that is read is made again of
its wrapped bytes, with the same text but for the case of a witness text.  An address made of wrapped
bytes has these bytes, and is read again from its text, save for a base58 text that is a bech32 text
as well.  The wrapped bytes determine kind, version and payload, and those of supported payees, and
no others, make an address. -/
theorem Address.text_wrapped_inverse :
    (∀ (text : String) (hint : Network) (a : Address), parse text hint = .ok a →
      ∃ b, ofWrapped a.wrapped a.network = .ok b ∧ b.sameAs a = true ∧
        b.text = if a.payee.kind = .witness then text.toLower else text) ∧
    (∀ (bs : List UInt8) (n : Network) (b : Address), ofWrapped bs n = .ok b →
      b.wrapped = bs ∧
        ((b.payee.kind = .witness ∨ ∀ v content, Bech32.read v b.text ≠ .ok content) →
          parse b.text n = .ok b)) ∧
    (∀ a b : Address, a.wrapped = b.wrapped →
      a.payee.kind = b.payee.kind ∧ a.payee.version? = b.payee.version? ∧
        a.payee.payload = b.payee.payload) ∧
    (∀ (bs : List UInt8) (n : Network), (∃ b, ofWrapped bs n = .ok b) ↔
      ∃ payee : Payee, payee.Supported ∧ bs = payee.wrapped) := by
  refine ⟨?_, ?_, ?_, ?_⟩
  · intro text hint a read
    obtain ⟨supported, written⟩ := write_of_parse read
    refine ⟨ofPayee a.network a.payee, ofWrapped_eq_ok.mpr ⟨a.payee, supported, rfl, rfl⟩, ?_,
      written⟩
    simp [sameAs, ofPayee]
  · intro bs n b made
    obtain ⟨payee, supported, rfl, rfl⟩ := ofWrapped_eq_ok.mp made
    exact ⟨rfl, parse_write supported⟩
  · intro a b same
    have payees : a.payee = b.payee := Payee.wrapped_injective same
    rw [payees]
    exact ⟨rfl, rfl, rfl⟩
  · intro bs n
    constructor
    · rintro ⟨b, made⟩
      obtain ⟨payee, supported, whole, -⟩ := ofWrapped_eq_ok.mp made
      exact ⟨payee, supported, whole⟩
    · rintro ⟨payee, supported, whole⟩
      exact ⟨_, ofWrapped_eq_ok.mpr ⟨payee, supported, whole, rfl⟩⟩

end MoveWallet.Bitcoin
