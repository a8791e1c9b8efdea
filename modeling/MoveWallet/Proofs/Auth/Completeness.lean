/-
# MoveWallet.Proofs.Auth.Completeness — every transaction's message can be proved on every network

A Bitcoin proof is refused for one reason only: its message is not that of a transaction.  The text
of the signer's address is written for one network and read with the hint of another; the head of the
frame is computed twice.  Neither matters: the proof is accepted, names the signer, and shows an
address of the signer whatever hint it is read with (`bitcoin_complete`).
-/
import MoveWallet.Proofs.Auth.Soundness

namespace MoveWallet.Auth

set_option autoImplicit false

open MoveWallet.Bytes.Endian
open MoveWallet.Curve.Secp256k1 (CurveKey)
open MoveWallet.Text

/-! ## Messages -/

theorem hasInfoPrefix_append {info : String} (marked : hasInfoPrefix info = true) (tail : String) :
    hasInfoPrefix (info ++ tail) = true := by
  rw [hasInfoPrefix_iff] at marked ⊢
  rw [String.toList_append]
  exact marked.trans (List.prefix_append _ _)

/-- A normalized message is that of a transaction. -/
theorem hasInfoPrefix_normalizeInfo (info : String) :
    hasInfoPrefix (normalizeInfo info) = true := by
  have started : hasInfoPrefix (if hasInfoPrefix info then info else infoPrefix ++ info) = true := by
    by_cases marked : hasInfoPrefix info = true
    · rw [if_pos marked, marked]
    · rw [if_neg marked]
      exact hasInfoPrefix_append (by decide) info
  simp only [normalizeInfo]
  generalize (if hasInfoPrefix info then info else infoPrefix ++ info) = text at started ⊢
  by_cases ended : text.toList.getLast? = some '\n'
  · rw [if_pos ended, started]
  · rw [if_neg ended]
    exact hasInfoPrefix_append started "\n"

theorem length_compactSize_le (n : Nat) : (Bitcoin.CompactSize.write n).length ≤ 9 := by
  unfold Bitcoin.CompactSize.write
  split_ifs <;> simp

theorem SignedMessage.length_head_le (m : SignedMessage) : m.head.length ≤ 34 := by
  have fixed : (Utf8.bytes framePrefix).length = 25 := by decide
  have size := length_compactSize_le (Utf8.byteLength m.info + 2 * m.hash.length)
  rw [SignedMessage.head, List.length_append, fixed]
  omega

/-! ## Payloads -/

namespace BitcoinPayload

/-- The payload of a key's own message can be written if the info is not too long. -/
theorem writes_framed {m : SignedMessage} {signature : Signature} {key : CurveKey}
    {network : Bitcoin.Network} (short : Utf8.byteLength m.info < UInt32.size) :
    codec.Writes (framed m signature key (Bitcoin.Address.ofKey key.xOnly network).text) := by
  have signed : signature.bytes.toList.length = 64 := signature.bytes.length_toList
  have public' : key.compressed.toList.length = 33 := key.compressed.length_toList
  have head := m.length_head_le
  have address := Bitcoin.byteLength_ofKey_le key.xOnly network
  rw [writes_codec]
  refine ⟨?_, ?_, short, ?_, ?_⟩
  · exact signed ▸ by decide
  · exact Nat.lt_of_le_of_lt head (by decide)
  · exact public' ▸ by decide
  · exact Nat.lt_of_le_of_lt address (by decide)

end BitcoinPayload

/-! ## Proofs -/

namespace Authenticator

/-- The message of a Bitcoin proof is refused exactly if its info does not begin as that of a
transaction. -/
theorem bitcoin_eq_badMessageInfo {m : SignedMessage} {secret : SecretNumber} {mode : SignMode}
    {network : Bitcoin.Network} :
    bitcoin m secret mode network = .error (.badMessageInfo m.info) ↔
      ¬ infoPrefix.toList <+: m.info.toList := by
  rw [← hasInfoPrefix_iff]
  constructor
  · intro refused marked
    rw [bitcoin, if_pos marked] at refused
    unfold ofPayload at refused
    split at refused <;> cases refused
  · intro unmarked
    rw [bitcoin, if_neg unmarked]

/-- A message of a transaction whose info is not too long has a proof, which shows the signature of
its frame. -/
theorem exists_bitcoin {m : SignedMessage} (marked : hasInfoPrefix m.info = true)
    (short : Utf8.byteLength m.info < UInt32.size) (secret : SecretNumber) (mode : SignMode)
    (network : Bitcoin.Network) :
    ∃ a, bitcoin m secret mode network = .ok a ∧
      a.bitcoinPayload = .ok (.framed m (secret.sign (m.signingBytes mode)) secret.publicKey
        (secret.bitcoinAddress network).text) := by
  obtain ⟨bs, written⟩ : BitcoinPayload.codec.Writes (.framed m (secret.sign (m.signingBytes mode))
      secret.publicKey (secret.bitcoinAddress network).text) := BitcoinPayload.writes_framed short
  have made : bitcoin m secret mode network = .ok ⟨Validator.bitcoin.id, bs⟩ := by
    rw [bitcoin, if_pos marked, ofPayload, written]
  exact ⟨_, made, (ofPayload_eq_ok (bitcoin_eq_ok made).2).2⟩

/-- A Bitcoin proof is refused because of its message exactly if the info does not begin as that of a
transaction.  For any other message, whose info is not too long, it is made on every network.  Then it
holds a payload that frames the hash, that is accepted in the mode that it was signed in, and whose
address is the signer's under any hint.  Of the key it is asked that it verify its own signature. -/
theorem bitcoin_complete (m : SignedMessage) (secret : SecretNumber) (mode : SignMode)
    (network : Bitcoin.Network) :
    (bitcoin m secret mode network = .error (.badMessageInfo m.info) ↔
      ¬ infoPrefix.toList <+: m.info.toList) ∧
    (infoPrefix.toList <+: m.info.toList → Utf8.byteLength m.info < UInt32.size →
      (PublicKey.secp256k1 secret.publicKey).verify (m.signingBytes mode)
        (secret.sign (m.signingBytes mode)) = true →
      ∃ a p text, bitcoin m secret mode network = .ok a ∧ a.bitcoinPayload = .ok p ∧
        p.verify m.hash mode = .ok (.secp256k1 secret.publicKey) ∧
        p.head ++ p.info ++ Utf8.bytes (Hex.encode m.hash) = m.frame ∧
        a.signer = .ok (Keypair.secp256k1 secret).account ∧
        p.fromAddressText = .ok text ∧
        ∀ hint, ∃ address, Bitcoin.Address.parse text hint = .ok address ∧
          address.account = (Keypair.secp256k1 secret).account) := by
  refine ⟨bitcoin_eq_badMessageInfo, fun started short accepted => ?_⟩
  have marked := hasInfoPrefix_iff.mpr started
  have owned : ∀ hint, ∃ address,
      Bitcoin.Address.parse (secret.bitcoinAddress network).text hint = .ok address ∧
        address.account = (Keypair.secp256k1 secret).account := by
    intro hint
    obtain ⟨address, parsed, -, account⟩ :=
      Bitcoin.parse_ofKey secret.publicKey.xOnly network hint
    exact ⟨address, parsed, account⟩
  obtain ⟨a, made, payload⟩ := exists_bitcoin marked short secret mode network
  have checked := BitcoinPayload.verify_framed marked rfl accepted (owned _)
  exact ⟨a, _, _, made, payload, checked, (m.frame_eq).symm, signer_of_verify payload checked,
    BitcoinPayload.fromAddressText_framed, owned⟩

/-- The secret number of the generator. -/
def smallestSecret : SecretNumber := ⟨1, by decide, by decide⟩

/-- The generator's proof of a hash of one byte, with an address for the main network. -/
theorem bitcoin_complete_smallest :
    ∃ a p, bitcoin (.normalized [7] "") smallestSecret .hash .bitcoin = .ok a ∧
      a.bitcoinPayload = .ok p ∧
      p.verify [7] .hash = .ok (.secp256k1 smallestSecret.publicKey) ∧
      a.signer = .ok (Keypair.secp256k1 smallestSecret).account := by
  have started : infoPrefix.toList <+: (SignedMessage.normalized [7] "").info.toList :=
    hasInfoPrefix_iff.mp (hasInfoPrefix_normalizeInfo "")
  have accepted : (PublicKey.secp256k1 smallestSecret.publicKey).verify
      ((SignedMessage.normalized [7] "").signingBytes .hash)
      (smallestSecret.sign ((SignedMessage.normalized [7] "").signingBytes .hash)) = true := by
    decide +kernel
  obtain ⟨a, p, text, made, payload, checked, -, signer, -⟩ :=
    (bitcoin_complete (.normalized [7] "") smallestSecret .hash .bitcoin).2 started
      (by decide +kernel) accepted
  exact ⟨a, p, made, payload, checked, signer⟩

end Authenticator

end MoveWallet.Auth
