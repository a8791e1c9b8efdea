/-
# MoveWallet.Proofs.Bitcoin.Hint — the hint of a reader chooses a network and nothing else

The text of an address has a mark of its network: the prefix of a witness address, the version byte
of any other.  Test networks share marks, and the hint decides among those that do.  What it decides
is looked at again, for the kind of a base58 address is told by comparing its byte with that of the
network just found; but networks with one mark are all main or all test networks, and these have the
same bytes.  So the hint changes neither what a text is refused for nor what it pays to
(`payee_parse`), and `parse_under_hints` says which networks it can be read for.
-/
import MoveWallet.Proofs.Bitcoin.Canonical

namespace MoveWallet.Bitcoin

set_option autoImplicit false

open MoveWallet.Bech32 (Content Variant)
open MoveWallet.Bytes.Fixed

/-! ## Marks -/

/-- What the text of an address says of its network. -/
inductive Mark where
  | hrp (hrp : String)
  | byte (byte : UInt8)
  deriving DecidableEq, Repr

/-- Addresses on the network have this mark. -/
def Network.Bears (n : Network) : Mark → Prop
  | .hrp hrp => n.hrp = hrp
  | .byte byte => byte = n.pubkeyByte ∨ byte = n.scriptByte

instance (n : Network) : (mark : Mark) → Decidable (n.Bears mark)
  | .hrp hrp => inferInstanceAs (Decidable (n.hrp = hrp))
  | .byte byte => inferInstanceAs (Decidable (byte = n.pubkeyByte ∨ byte = n.scriptByte))

/-- The network that a mark and a hint say. -/
def Network.ofMark? : Mark → Network → Option Network
  | .hrp hrp, hint => ofHrp? hrp hint
  | .byte byte, hint => ofVersionByte? byte hint

/-- The mark in a text, which is a bech32 text if it can be one. -/
def Address.mark? (text : String) : Option Mark :=
  match readBech32? text with
  | some (_, content) => some (.hrp content.hrp)
  | none =>
      match Base58.readChecked text with
      | .ok (byte :: _) => some (.byte byte)
      | _ => none

variable {mark : Mark} {m n hint : Network}

theorem bears_of_ofMark? (h : Network.ofMark? mark hint = some n) : n.Bears mark := by
  cases mark with
  | hrp hrp => exact hrp_of_ofHrp? h
  | byte byte => exact byte_of_ofVersionByte? h

/-- A network is found under its own hint. -/
theorem ofMark?_self (h : n.Bears mark) : Network.ofMark? mark n = some n := by
  cases mark with
  | hrp hrp =>
    obtain rfl : n.hrp = hrp := h
    exact ofHrp?_self n
  | byte byte =>
    rcases h with rfl | rfl
    · exact ofVersionByte?_pubkeyByte n
    · exact ofVersionByte?_scriptByte n

/-- A mark that some network has is one of a network under any hint. -/
theorem exists_ofMark? (h : n.Bears mark) (hint : Network) :
    ∃ found, Network.ofMark? mark hint = some found := by
  cases mark with
  | hrp hrp =>
    obtain rfl : n.hrp = hrp := h
    exact ofHrp?_hrp n hint
  | byte byte =>
    rcases h with rfl | rfl
    · cases n <;> exact ⟨_, rfl⟩
    · cases n <;> exact ⟨_, rfl⟩

theorem ofMark?_eq_none (h : Network.ofMark? mark m = none) (n : Network) :
    Network.ofMark? mark n = none := by
  rw [Option.eq_none_iff_forall_ne_some]
  intro found other
  obtain ⟨found', same⟩ := exists_ofMark? (bears_of_ofMark? other) m
  rw [h] at same
  cases same

/-- The main network shares no mark with another. -/
theorem isMain_eq_of_bears (h : m.Bears mark) (h' : n.Bears mark) : m.isMain = n.isMain := by
  cases mark with
  | hrp hrp =>
    obtain rfl : m.hrp = hrp := h
    revert h'
    cases m <;> cases n <;> decide
  | byte byte =>
    rcases h with rfl | rfl
    · revert h'
      cases m <;> cases n <;> decide
    · revert h'
      cases m <;> cases n <;> decide

/-- Under two hints a mark is of no network, or of two that are main networks or test networks. -/
theorem ofMark?_cases (mark : Mark) (m n : Network) :
    (Network.ofMark? mark m = none ∧ Network.ofMark? mark n = none) ∨
      ∃ a b, Network.ofMark? mark m = some a ∧ Network.ofMark? mark n = some b ∧
        a.isMain = b.isMain := by
  rcases first : Network.ofMark? mark m with _ | a
  · exact .inl ⟨rfl, ofMark?_eq_none first n⟩
  · have bears := bears_of_ofMark? first
    obtain ⟨b, second⟩ := exists_ofMark? bears n
    exact .inr ⟨a, b, rfl, second, isMain_eq_of_bears bears (bears_of_ofMark? second)⟩

/-- No other network has the prefix of the local one. -/
theorem eq_regtest_of_bears (h : n.Bears (.hrp Network.regtest.hrp)) : n = .regtest := by
  revert h
  cases n <;> decide

/-! ## What is paid to -/

theorem payee_ofBech32 (text : String) (v : Variant) (content : Content) (m n : Network) :
    (Address.ofBech32 text v content m).map Address.payee =
      (Address.ofBech32 text v content n).map Address.payee := by
  rcases ofMark?_cases (.hrp content.hrp) m n with ⟨first, second⟩ | ⟨a, b, first, second, -⟩
  · simp only [Network.ofMark?] at first second
    simp only [Address.ofBech32, first, second]
  · simp only [Network.ofMark?] at first second
    simp only [Address.ofBech32, first, second]
    rcases content.groups with _ | ⟨g, gs⟩
    · rfl
    · dsimp only
      rcases checkProgram (UInt8.ofNat g.toNat) (Bech32.bytesOf gs) with e | payee
      all_goals
        split_ifs
        all_goals rfl

theorem payee_ofBase58 (text : String) (m n : Network) :
    (Address.ofBase58 text m).map Address.payee = (Address.ofBase58 text n).map Address.payee := by
  rcases read : Base58.readChecked text with e | bs
  · simp only [Address.ofBase58, read]
  rcases bs with _ | ⟨byte, rest⟩
  · simp only [Address.ofBase58, read]
  rcases fits : FixedBytes.ofList? 20 rest with _ | hash
  · simp only [Address.ofBase58, read, fits]
  rcases ofMark?_cases (.byte byte) m n with ⟨first, second⟩ | ⟨a, b, first, second, sameMain⟩
  · simp only [Network.ofMark?] at first second
    simp only [Address.ofBase58, read, fits, first, second]
  · have sameByte : a.pubkeyByte = b.pubkeyByte := by
      rw [Network.pubkeyByte, sameMain, Network.pubkeyByte]
    simp only [Network.ofMark?] at first second
    simp only [Address.ofBase58, read, fits, first, second, sameByte]
    rfl

/-- The hint changes neither what a text is refused for nor what it pays to. -/
theorem payee_parse (text : String) (m n : Network) :
    (Address.parse text m).map Address.payee = (Address.parse text n).map Address.payee := by
  simp only [Address.parse]
  split_ifs
  · rfl
  · rcases Address.readBech32? text with _ | ⟨v, content⟩
    · exact payee_ofBase58 text m n
    · exact payee_ofBech32 text v content m n

/-- A text that is read under one hint is read under any, as an address that pays to the same. -/
theorem exists_parse {text : String} {a : Address} (h : Address.parse text m = .ok a) (n : Network) :
    ∃ b, Address.parse text n = .ok b ∧ b.payee = a.payee := by
  have same := payee_parse text m n
  rw [h] at same
  rcases other : Address.parse text n with e | b
  · rw [other] at same
    cases same
  · rw [other] at same
    exact ⟨b, rfl, (Except.ok.inj same).symm⟩

/-! ## The network -/

/-- The network of an address is the one that its mark and the hint say. -/
theorem mark_of_parse {text : String} {a : Address} (h : Address.parse text hint = .ok a) :
    a.text = text ∧ ∃ mark, Address.mark? text = some mark ∧
      Network.ofMark? mark hint = some a.network := by
  simp only [Address.parse] at h
  split_ifs at h
  rcases bech32 : Address.readBech32? text with _ | ⟨v, content⟩
  · rw [bech32] at h
    obtain ⟨byte, hash, read, n, network, rfl⟩ := ofBase58_eq_ok.mp h
    exact ⟨rfl, .byte byte, by simp only [Address.mark?, bech32, read], network⟩
  · rw [bech32] at h
    obtain ⟨version, program, -, -, -, n, network, rfl⟩ := ofBech32_eq_ok.mp h
    exact ⟨rfl, .hrp content.hrp, by simp only [Address.mark?, bech32], network⟩

namespace Address

/-- What two readings of one text with a mark have in common: all but the network, and that has the
mark in both.  Only test networks can differ, and the local one has a prefix of its own. -/
structure Agree (mark : Mark) (a b : Address) : Prop where
  text : a.text = b.text
  payee : a.payee = b.payee
  wrapped : a.wrapped = b.wrapped
  account : a.account = b.account
  bears : a.network.Bears mark ∧ b.network.Bears mark
  isMain : a.network.isMain = b.network.isMain
  regtest : mark = .hrp Network.regtest.hrp → a.network = .regtest ∧ b.network = .regtest
  test : a.network ≠ b.network → a.network.isMain = false ∧ b.network.isMain = false

theorem agree_of_bears {a b : Address} (text : a.text = b.text) (payee : a.payee = b.payee)
    (bearsA : a.network.Bears mark) (bearsB : b.network.Bears mark) : Agree mark a b := by
  have main := isMain_eq_of_bears bearsA bearsB
  refine ⟨text, payee, congrArg Payee.wrapped payee, congrArg Payee.account payee,
    ⟨bearsA, bearsB⟩, main, ?_, ?_⟩
  · rintro rfl
    exact ⟨eq_regtest_of_bears bearsA, eq_regtest_of_bears bearsB⟩
  · intro different
    have main_eq : ∀ k : Network, k.isMain = true → k = .bitcoin := fun k => beq_iff_eq.mp
    rw [← main, and_self, ← Bool.not_eq_true]
    intro isMain
    exact different ((main_eq _ isMain).trans (main_eq _ (main ▸ isMain)).symm)

/-- Under two hints a text is refused for one reason, or read as one address but for the network,
which is the hint's own if that has the mark of the text. -/
theorem parse_under_hints (text : String) (m n : Network) :
    (∃ e, parse text m = .error e ∧ parse text n = .error e) ∨
    ∃ a b mark, parse text m = .ok a ∧ parse text n = .ok b ∧ mark? text = some mark ∧
      Agree mark a b ∧ (m.Bears mark → a.network = m) ∧ (n.Bears mark → b.network = n) := by
  have same := payee_parse text m n
  rcases first : parse text m with e | a
  · rcases second : parse text n with e' | b
    · rw [first, second] at same
      cases same
      exact .inl ⟨e, rfl, rfl⟩
    · rw [first, second] at same
      cases same
  · rcases second : parse text n with e' | b
    · rw [first, second] at same
      cases same
    · rw [first, second] at same
      obtain ⟨textA, mark, marked, foundA⟩ := mark_of_parse first
      obtain ⟨textB, mark', marked', foundB⟩ := mark_of_parse second
      rw [marked] at marked'
      cases marked'
      refine .inr ⟨a, b, mark, rfl, rfl, marked, ?_, ?_, ?_⟩
      · exact agree_of_bears (textA.trans textB.symm) (Except.ok.inj same)
          (bears_of_ofMark? foundA) (bears_of_ofMark? foundB)
      · intro bears
        rw [ofMark?_self bears] at foundA
        exact (Option.some.inj foundA).symm
      · intro bears
        rw [ofMark?_self bears] at foundB
        exact (Option.some.inj foundB).symm

/-- A text with the prefix that two test networks share is of the one that the hint says. -/
example :
    [Network.bitcoin, .testnet, .signet, .regtest].map (fun hint =>
      ((parse "tb1qw508d6qejxtdg4y5r3zarvary0c5xw7kxpjzsx" hint).map Address.network).toOption) =
    [some .testnet, some .testnet, some .signet, some .testnet] := by decide +kernel

end Address

end MoveWallet.Bitcoin
