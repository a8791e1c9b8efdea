/-
# MoveWallet.Proofs.Bitcoin.Witness — the text of a witness address

A bech32 text says one address exactly if its prefix is that of a network, its checksum goes with
the version, and its groups are those of a supported version and program (`ofBech32_eq_ok`).  So the
text that is read is in lower case the one that is written (`write_of_ofBech32`), and the text that
is written is read under any hint (`parse_write_witness`): the prefix tells the networks apart as
far as they matter to what is paid to.
-/
import MoveWallet.Proofs.Bech32.Canonical
import MoveWallet.Proofs.Bech32.Groups
import MoveWallet.Proofs.Bitcoin.Wrapped
import MoveWallet.Proofs.Text.Utf8

namespace MoveWallet.Bitcoin

set_option autoImplicit false

open MoveWallet.Bech32 (Content Group Variant)
open MoveWallet.Text

/-! ## Prefixes -/

theorem hrp_facts : ∀ n : Network, Bech32.isHrp n.hrp.toList = true ∧
    n.hrp.toList.any Bech32.isUpper = false ∧ n.hrp.toList.length ≤ 4 ∧ 2 ≤ n.hrp.toList.length ∧
    n.hrp.toList.all (fun c => decide (c.toNat < 0x80)) = true := by
  intro n
  cases n <;> decide

/-- The prefix of a network is one of a network under any hint. -/
theorem ofHrp?_hrp (n hint : Network) : ∃ found, Network.ofHrp? n.hrp hint = some found := by
  cases n <;> exact ⟨_, rfl⟩

theorem ofHrp?_self (n : Network) : Network.ofHrp? n.hrp n = some n := by
  cases n <;> rfl

theorem hrp_of_ofHrp? {hrp : String} {hint n : Network} (h : Network.ofHrp? hrp hint = some n) :
    n.hrp = hrp := by
  unfold Network.ofHrp? at h
  split_ifs at h with main test signet local'
  · cases h; exact main.symm
  · cases h; exact test.symm
  · cases h; exact test.symm
  · cases h; exact local'.symm

/-! ## Groups -/

theorem groupChar_ascii : ∀ g : Group, (Bech32.groupChar g).toNat < 0x80 := by
  decide

/-- Text is ASCII, with a character for each group. -/
theorem byteLength_write (v : Variant) (n : Network) (gs : List Group) :
    Utf8.byteLength (Bech32.write v n.hrp gs) = n.hrp.toList.length + gs.length + 7 := by
  obtain ⟨-, -, -, -, ascii⟩ := hrp_facts n
  have six : (Bech32.checksum v n.hrp.toList gs).length = 6 := rfl
  rw [Utf8.byteLength, Utf8.bytes, Bech32.write, String.toList_ofList,
    Utf8.length_encode_of_ascii, List.length_append, List.length_cons, List.length_map,
    List.length_append, six]
  · omega
  · intro c member
    rcases List.mem_append.mp member with member | member
    · exact of_decide_eq_true (List.all_eq_true.mp ascii c member)
    · rcases List.mem_cons.mp member with rfl | member
      · decide
      · obtain ⟨g, -, rfl⟩ := List.mem_map.mp member
        exact groupChar_ascii g

/-- The group of a version, and the groups of a program. -/
def witnessGroups (version : UInt8) (program : List UInt8) : List Group :=
  BitVec.ofNat 5 version.toNat :: Bech32.groupsOf program

theorem length_witnessGroups {version : UInt8} {program : List UInt8}
    (h : (Payee.witness version program).Supported) :
    33 ≤ (witnessGroups version program).length ∧
      (witnessGroups version program).length ≤ 53 := by
  rw [witnessGroups, List.length_cons, Bech32.length_groupsOf]
  rcases h.2 with size | ⟨-, size⟩ <;> omega

/-! ## Reading -/

/-- A bech32 text says an address exactly if its groups are those of a supported version and program
and its checksum is that of the version. -/
theorem ofBech32_eq_ok {text : String} {variant : Variant} {content : Content} {hint : Network}
    {a : Address} :
    Address.ofBech32 text variant content hint = .ok a ↔
      ∃ version program, (Payee.witness version program).Supported ∧
        variant = variantOf version ∧ content.groups = witnessGroups version program ∧
        ∃ n, Network.ofHrp? content.hrp hint = some n ∧ a = ⟨text, n, .witness version program⟩ := by
  rcases network : Network.ofHrp? content.hrp hint with _ | n
  · simp [Address.ofBech32, network]
  simp only [Address.ofBech32, network, Option.some.injEq]
  constructor
  · intro h
    rcases groups : content.groups with _ | ⟨v, gs⟩
    · simp [groups] at h
    · simp only [groups] at h
      split_ifs at h with large padded checksum
      · obtain ⟨payee, checked, made⟩ := Wire.bind_eq_ok.mp h
        obtain ⟨rfl, supported⟩ := checkProgram_eq_ok.mp checked
        cases made
        have whole : Bech32.leftoverIsZero gs = true := by simpa using padded
        have version : BitVec.ofNat 5 (UInt8.ofNat v.toNat).toNat = v := by
          have small : v.toNat < UInt8.size := Nat.lt_trans v.isLt (by decide)
          rw [UInt8.toNat_ofNat_of_lt' small, BitVec.ofNat_toNat, BitVec.setWidth_eq]
        refine ⟨_, _, supported, checksum, ?_, n, rfl, rfl⟩
        rw [witnessGroups, Bech32.groupsOf_bytesOf whole, version]
      · obtain ⟨-, -, refused⟩ := Wire.bind_eq_ok.mp h
        cases refused
  · rintro ⟨version, program, supported, rfl, groups, n, rfl, rfl⟩
    have early : version.toNat ≤ 1 := UInt8.le_iff_toNat_le.mp supported.1
    have number : (BitVec.ofNat 5 version.toNat).toNat = version.toNat := by
      rw [BitVec.toNat_ofNat, Nat.mod_eq_of_lt (by omega)]
    have small : ¬ 16 < version.toNat := by omega
    simp only [groups, witnessGroups, number, if_neg small, Bech32.leftoverIsZero_groupsOf,
      Bech32.bytesOf_groupsOf, UInt8.ofNat_toNat, checkProgram_eq_ok.mpr ⟨rfl, supported⟩]
    rfl

/-- Text has a length that address text can have. -/
def AddressLength (text : String) : Prop :=
  Address.textLengths.1 ≤ Utf8.byteLength text ∧ Utf8.byteLength text ≤ Address.textLengths.2

theorem parse_of_bech32 {text : String} {v : Variant} {content : Content} (fits : AddressLength text)
    (read : Address.readBech32? text = some (v, content)) (hint : Network) :
    Address.parse text hint = Address.ofBech32 text v content hint := by
  simp [Address.parse, Nat.not_lt.mpr fits.1, Nat.not_lt.mpr fits.2, read]

theorem parse_of_base58 {text : String} (fits : AddressLength text)
    (other : Address.readBech32? text = none) (hint : Network) :
    Address.parse text hint = Address.ofBase58 text hint := by
  simp [Address.parse, Nat.not_lt.mpr fits.1, Nat.not_lt.mpr fits.2, other]

theorem readBech32?_eq_some {text : String} {v : Variant} {content : Content} :
    Address.readBech32? text = some (v, content) ↔ Bech32.read v text = .ok content := by
  unfold Address.readBech32?
  rcases modified : Bech32.read .bech32m text with e | c
  · rcases original : Bech32.read .bech32 text with e | c
    · cases v <;> simp [modified, original]
    · cases v <;> simp [modified, original]
  · cases v with
    | bech32m => simp [modified]
    | bech32 =>
      rcases original : Bech32.read .bech32 text with e | d
      · simp
      · exact absurd (Bech32.variant_unique modified original) (by decide)

/-- The text of a witness address is in lower case the one that is written for it. -/
theorem write_of_ofBech32 {text : String} {variant : Variant} {content : Content} {hint : Network}
    {a : Address} (read : Bech32.read variant text = .ok content)
    (h : Address.ofBech32 text variant content hint = .ok a) :
    a.payee.Supported ∧ a.payee.kind = .witness ∧
      Address.write a.network a.payee = text.toLower := by
  obtain ⟨version, program, supported, rfl, groups, n, network, rfl⟩ := ofBech32_eq_ok.mp h
  refine ⟨supported, rfl, ?_⟩
  rw [← Bech32.write_of_read read, groups, ← hrp_of_ofHrp? network]
  rfl

/-! ## Writing -/

/-- The text of a witness address is read under any hint as an address of the same payee, on the
network that the prefix and the hint say. -/
theorem parse_write_witness {version : UInt8} {program : List UInt8}
    (h : (Payee.witness version program).Supported) (n hint : Network) :
    ∃ found, Network.ofHrp? n.hrp hint = some found ∧
      Address.parse (Address.write n (.witness version program)) hint =
        .ok ⟨Address.write n (.witness version program), found, .witness version program⟩ := by
  obtain ⟨valid, small, short, two, -⟩ := hrp_facts n
  obtain ⟨least, most⟩ := length_witnessGroups h
  obtain ⟨found, network⟩ := ofHrp?_hrp n hint
  have written : Address.write n (.witness version program) =
      Bech32.write (variantOf version) n.hrp (witnessGroups version program) := rfl
  have length := byteLength_write (variantOf version) n (witnessGroups version program)
  have fits : n.hrp.toList.length + (witnessGroups version program).length + 7 ≤
      Bech32.maxLength := by
    rw [Bech32.maxLength]
    omega
  have read := readBech32?_eq_some.mpr
    (Bech32.read_write (variantOf version) valid small fits)
  have inside : AddressLength (Bech32.write (variantOf version) n.hrp
      (witnessGroups version program)) := by
    rw [AddressLength, length, Address.textLengths]
    omega
  refine ⟨found, network, ?_⟩
  rw [written, parse_of_bech32 inside read]
  exact ofBech32_eq_ok.mpr ⟨version, program, h, rfl, rfl, found, network, rfl⟩

end MoveWallet.Bitcoin
