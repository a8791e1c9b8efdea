/-
# MoveWallet.Proofs.Bech32.Spelling — the texts that are read as one prefix and one run of bytes

Case does not matter as long as there is only one (`read_toLower`), and but for case a text is what
is written of the prefix and the groups that it is read as (`read_eq_ok_iff`).  Groups hold more than
their bytes: behind the bits of the bytes come up to seven that joining drops (`bytesOf_eq_iff`).  So
the texts of given bytes differ in these bits: `spell` writes the bytes with any of them, and
`exists_read_iff` says that a reader that asks for prefix and bytes alone accepts all these texts and
no others.  One of them is the text that is written of the bytes (`writeBytes_eq_iff`).
-/
import MoveWallet.Proofs.Bech32.Canonical
import MoveWallet.Proofs.Bech32.Groups
import MoveWallet.Proofs.Text.Blank
import MoveWallet.Proofs.Text.Utf8

namespace MoveWallet.Bech32

set_option autoImplicit false

open MoveWallet.Text.Reading

variable {v : Variant} {text : String} {c : Content}

/-! ## Letters -/

theorem isUpper_iff {c : Char} : isUpper c = true ↔ 65 ≤ c.toNat ∧ c.toNat ≤ 90 := by
  rw [isUpper, Bool.and_eq_true, decide_eq_true_eq, decide_eq_true_eq]
  rfl

/-- A capital letter is 32 places before its small letter, and nothing else is changed. -/
theorem lower_cases (c : Char) :
    isUpper c = false ∧ lower c = c ∨
      65 ≤ c.toNat ∧ c.toNat ≤ 90 ∧ (lower c).toNat = c.toNat + 32 := by
  by_cases capital : isUpper c = true
  · right
    obtain ⟨least, most⟩ := isUpper_iff.mp capital
    refine ⟨least, most, ?_⟩
    unfold isUpper at capital
    rw [lower, if_pos capital]
    exact Text.Utf8.toNat_val_ofNat (Or.inl (by omega))
  · left
    rw [Bool.not_eq_true] at capital
    exact ⟨capital, lower_of_not_isUpper capital⟩

theorem isUpper_lower (c : Char) : isUpper (lower c) = false := by
  rcases lower_cases c with ⟨small, same⟩ | ⟨least, -, place⟩
  · rw [same, small]
  · rw [← Bool.not_eq_true, isUpper_iff, place]
    omega

theorem lower_lower (c : Char) : lower (lower c) = lower c :=
  lower_of_not_isUpper (isUpper_lower c)

/-- No letter becomes the separator. -/
theorem lower_eq_one_iff {c : Char} : lower c = '1' ↔ c = '1' := by
  rcases lower_cases c with ⟨-, same⟩ | ⟨least, -, place⟩
  · rw [same]
  · have one : '1'.toNat = 49 := rfl
    constructor
    · intro h
      rw [h] at place
      omega
    · intro h
      rw [h] at least
      omega

/-- What stands for a group does so in both cases. -/
theorem group?_lower (c : Char) : group? (lower c) = group? c := by
  rw [group?, lower_lower, group?]

theorem visible_lower (c : Char) :
    (33 ≤ (lower c).toNat && (lower c).toNat ≤ 126) = (33 ≤ c.toNat && c.toNat ≤ 126) := by
  rcases lower_cases c with ⟨-, same⟩ | ⟨least, most, place⟩
  · rw [same]
  · rw [place, Bool.eq_iff_iff]
    simp only [Bool.and_eq_true, decide_eq_true_eq]
    omega

theorem any_isUpper_map_lower (s : List Char) : (s.map lower).any isUpper = false := by
  simp [List.any_map, isUpper_lower]

theorem map_lower_map_lower (s : List Char) : (s.map lower).map lower = s.map lower :=
  map_lower (any_isUpper_map_lower s)

/-! ## Case -/

/-- There are no capital letters, or no small ones. -/
def OneCase (s : List Char) : Prop := s.any isUpper = false ∨ s.any isLower = false

theorem oneCase_iff {s : List Char} : OneCase s ↔ (s.any isUpper && s.any isLower) = false := by
  rw [Bool.and_eq_false_iff]
  rfl

theorem cut?_map_lower (s : List Char) :
    cut? (s.map lower) = (cut? s).map fun p => (p.1.map lower, p.2.map lower) := by
  induction s with
  | nil => rfl
  | cons c s ih =>
    rw [List.map_cons, cut?, cut?, ih]
    rcases cut? s with _ | ⟨hrp, data⟩
    · by_cases separator : c = '1'
      · simp [separator, lower_eq_one_iff.mpr]
      · simp [separator, lower_eq_one_iff]
    · rfl

theorem mapM_group?_map_lower (s : List Char) : (s.map lower).mapM group? = s.mapM group? := by
  induction s with
  | nil => rfl
  | cons c s ih => rw [List.map_cons, List.mapM_cons, List.mapM_cons, group?_lower, ih]

theorem isHrp_map_lower (hrp : List Char) : isHrp (hrp.map lower) = isHrp hrp := by
  simp only [isHrp, List.length_map, List.all_map, Function.comp_def, visible_lower]

/-- In one case, characters are right or wrong whichever it is. -/
theorem parts?_map_lower {s : List Char} (one : OneCase s) : parts? (s.map lower) = parts? s := by
  rcases cut : cut? s with _ | ⟨hrp, data⟩
  · simp [parts?, cut?_map_lower, cut]
  · simp only [parts?, cut?_map_lower, cut, Option.map_some, Option.bind_eq_bind, Option.bind_some,
      mapM_group?_map_lower, any_isUpper_map_lower, Bool.false_and, oneCase_iff.mp one,
      isHrp_map_lower, map_lower_map_lower]

/-- Text in one case is read as its lower case is. -/
theorem read_toLower (one : OneCase text.toList) : read v text.toLower = read v text := by
  simp only [read, toList_toLower, parts?_map_lower one, List.length_map]

/-- Small letters are those of their capitals, and no capital is small. -/
theorem toUpper_facts (c : Char) : lower c.toUpper = lower c ∧ isLower c.toUpper = false := by
  have table : ∀ c : Char, c.toNat < 0x80 → lower c.toUpper = lower c ∧ isLower c.toUpper = false :=
    Text.Utf8.forall_ascii (by decide +kernel)
  by_cases ascii : c.toNat < 0x80
  · exact table c ascii
  · have far : ¬ (c ≤ 'z') := fun most => ascii (Nat.lt_of_le_of_lt most (by decide))
    have same : c.toUpper = c := by
      unfold Char.toUpper
      rw [dif_neg]
      rintro ⟨-, most⟩
      exact far most
    rw [same]
    refine ⟨rfl, ?_⟩
    simp [isLower, far]

theorem toList_toUpper (text : String) : text.toUpper.toList = text.toList.map Char.toUpper :=
  String.toList_map

theorem oneCase_toUpper (text : String) : OneCase text.toUpper.toList := by
  right
  rw [toList_toUpper, List.any_map, List.any_eq_false]
  intro c _
  simp [toUpper_facts c]

theorem toLower_toUpper (text : String) : text.toUpper.toLower = text.toLower := by
  apply String.ext
  rw [toList_toLower, toList_toLower, toList_toUpper, List.map_map]
  exact List.map_congr_left fun c _ => (toUpper_facts c).1

/-! ## What is read -/

/-- A prefix in lower case, and groups that fit behind it. -/
structure Content.WellFormed (c : Content) : Prop where
  isHrp : isHrp c.hrp.toList = true
  small : c.hrp.toList.any isUpper = false
  short : c.hrp.toList.length + c.groups.length + 7 ≤ maxLength

theorem length_write (v : Variant) (hrp : String) (gs : List Group) :
    (write v hrp gs).toList.length = hrp.toList.length + gs.length + 7 := by
  have six : (checksum v hrp.toList gs).length = 6 := rfl
  rw [write, String.toList_ofList, List.length_append, List.length_cons, List.length_map,
    List.length_append, six]
  omega

theorem length_toLower (text : String) : text.toLower.toList.length = text.toList.length := by
  rw [toList_toLower, List.length_map]

theorem valid_of_parts? {s hrp : List Char} {gs : List Group} (h : parts? s = some (hrp, gs)) :
    OneCase s ∧ isHrp hrp = true ∧ hrp.any isUpper = false := by
  simp only [parts?, Option.bind_eq_bind, Option.bind_eq_some_iff] at h
  obtain ⟨⟨raw, data⟩, -, groups, -, rest⟩ := h
  split_ifs at rest with mixed valid
  cases rest
  refine ⟨oneCase_iff.mpr (Bool.not_eq_true _ ▸ mixed), ?_, any_isUpper_map_lower raw⟩
  rw [isHrp_map_lower, valid]

theorem oneCase_of_read (h : read v text = .ok c) : OneCase text.toList := by
  obtain ⟨hrp, gs, parts, -⟩ := read_eq_ok h
  exact (valid_of_parts? parts).1

theorem wellFormed_of_read (h : read v text = .ok c) : c.WellFormed := by
  have written := congrArg (fun t => t.toList.length) (write_of_read h)
  have short : text.toList.length ≤ maxLength := by
    rw [← Nat.not_lt]
    intro long
    obtain ⟨hrp, gs, parts, -⟩ := read_eq_ok h
    simp [read, parts, long] at h
  simp only [length_write, length_toLower] at written
  obtain ⟨hrp, gs, parts, -, -, rfl⟩ := read_eq_ok h
  obtain ⟨-, valid, small⟩ := valid_of_parts? parts
  refine ⟨?_, ?_, ?_⟩
  · rw [String.toList_ofList, valid]
  · rw [String.toList_ofList, small]
  · rw [written]
    exact short

/-- A text is read as the content of which it is written, but for its case. -/
theorem read_eq_ok_iff :
    read v text = .ok c ↔
      c.WellFormed ∧ OneCase text.toList ∧ write v c.hrp c.groups = text.toLower := by
  constructor
  · intro h
    exact ⟨wellFormed_of_read h, oneCase_of_read h, write_of_read h⟩
  · rintro ⟨formed, one, written⟩
    rw [← read_toLower one, ← written]
    exact read_write v formed.isHrp formed.small formed.short

theorem visible_groupChar : ∀ g : Group,
    (33 ≤ (groupChar g).toNat && (groupChar g).toNat ≤ 126) = true := by
  decide

/-- A text that is in lower case what is written under a prefix has visible characters only, so it has
no blanks round it. -/
theorem tight_of_toLower {hrp : String} {gs : List Group} (valid : isHrp hrp.toList = true)
    (written : write v hrp gs = text.toLower) : Text.Blank.Tight text.toList := by
  have characters : text.toList.map lower =
      hrp.toList ++ '1' :: (gs ++ checksum v hrp.toList gs).map groupChar := by
    rw [← toList_toLower, ← written, write, String.toList_ofList]
  refine Text.Blank.tight_of_forall ?_ ?_
  · rintro none
    rw [none] at characters
    exact List.cons_ne_nil _ _ (List.append_eq_nil_iff.mp characters.symm).2
  · intro c member
    have lowered : lower c ∈ text.toList.map lower := List.mem_map_of_mem member
    rw [characters, List.mem_append, List.mem_cons] at lowered
    have visible : (33 ≤ (lower c).toNat && (lower c).toNat ≤ 126) = true := by
      rcases lowered with front | separator | group
      · simp only [isHrp, Bool.and_eq_true] at valid
        rw [Bool.and_eq_true]
        exact Bool.and_eq_true_iff.mp (List.all_eq_true.mp valid.2 _ front)
      · rw [separator]
        rfl
      · obtain ⟨g, -, same⟩ := List.mem_map.mp group
        rw [← same]
        exact visible_groupChar g
    rw [visible_lower, Bool.and_eq_true, decide_eq_true_eq, decide_eq_true_eq] at visible
    exact Text.Blank.isBlank_of_visible visible.1 visible.2

theorem groupChar_injective : Function.Injective groupChar := by
  intro g g' same
  have read := congrArg group? same
  rw [(groupChar_facts g).1, (groupChar_facts g').1] at read
  exact Option.some.inj read

/-- Under one prefix, a text is written of one run of groups. -/
theorem write_injective {hrp : String} {gs gs' : List Group}
    (same : write v hrp gs = write v hrp gs') : gs = gs' := by
  have characters := congrArg String.toList same
  rw [write, write, String.toList_ofList, String.toList_ofList] at characters
  have tails := List.cons.inj (List.append_cancel_left characters)
  have groups := List.map_injective_iff.mpr groupChar_injective tails.2
  exact (List.append_inj' groups rfl).1

/-! ## Bytes and what is left over -/

/-- Fewer than eight bits that fill up the groups of a number of bytes. -/
structure Leftover (size : Nat) (pad : List Bool) : Prop where
  few : pad.length < 8
  even : 5 ∣ 8 * size + pad.length

/-- Behind 32 bytes come four bits. -/
theorem leftover_32_iff {pad : List Bool} : Leftover 32 pad ↔ pad.length = 4 := by
  constructor
  · rintro ⟨few, even⟩
    omega
  · intro four
    exact ⟨by omega, by omega⟩

/-- Behind 33 bytes comes one bit, or one and a whole group. -/
theorem leftover_33_iff {pad : List Bool} :
    Leftover 33 pad ↔ pad.length = 1 ∨ pad.length = 6 := by
  constructor
  · rintro ⟨few, even⟩
    omega
  · intro sizes
    exact ⟨by omega, by omega⟩

/-- The text of a prefix and bytes, with given bits behind those of the bytes. -/
def spell (v : Variant) (hrp : String) (bs : List UInt8) (pad : List Bool) : String :=
  write v hrp (groupsOfBits (bitsOfBytes bs ++ pad))

theorem writeBytes_eq_spell (v : Variant) (hrp : String) (bs : List UInt8) :
    writeBytes v hrp bs = spell v hrp bs (List.replicate (fill bs.length) false) := by
  rw [writeBytes, groupsOf_eq]
  rfl

section

variable {bs : List UInt8} {pad pad' : List Bool}

theorem bitsOfGroups_padded (left : Leftover bs.length pad) :
    bitsOfGroups (groupsOfBits (bitsOfBytes bs ++ pad)) = bitsOfBytes bs ++ pad := by
  apply bitsOfGroups_groupsOfBits
  rw [List.length_append, length_bitsOfBytes]
  exact left.even

/-- Groups are joined to bytes exactly if they hold their bits and fewer than eight more. -/
theorem bytesOf_eq_iff {gs : List Group} :
    bytesOf gs = bs ↔
      ∃ pad, Leftover bs.length pad ∧ groupsOfBits (bitsOfBytes bs ++ pad) = gs := by
  constructor
  · rintro rfl
    have split := List.take_append_drop (8 * (5 * gs.length / 8)) (bitsOfGroups gs)
    refine ⟨(bitsOfGroups gs).drop (8 * (5 * gs.length / 8)), ⟨?_, ?_⟩, ?_⟩
    · rw [List.length_drop, length_bitsOfGroups]
      omega
    · rw [List.length_drop, length_bitsOfGroups, length_bytesOf]
      omega
    · rw [bitsOfBytes_bytesOf, split, groupsOfBits_bitsOfGroups]
  · rintro ⟨pad, left, rfl⟩
    exact bytesOf_of_bits (bitsOfGroups_padded left) left.few

theorem leftover_fill (size : Nat) : Leftover size (List.replicate (fill size) false) := by
  refine ⟨?_, ?_⟩
  · rw [List.length_replicate]
    exact Nat.lt_trans (fill_lt size) (by decide)
  · rw [List.length_replicate, fill]
    omega

/-- Different bits behind the bytes make different texts. -/
theorem spell_injective {hrp : String} (left : Leftover bs.length pad)
    (left' : Leftover bs.length pad') (same : spell v hrp bs pad = spell v hrp bs pad') :
    pad = pad' := by
  have bits := congrArg bitsOfGroups (write_injective same)
  rw [bitsOfGroups_padded left, bitsOfGroups_padded left'] at bits
  exact List.append_cancel_left bits

/-- The writer fills up with zeros, as few as will do. -/
theorem writeBytes_eq_iff {hrp : String} (left : Leftover bs.length pad)
    (spelled : spell v hrp bs pad = text) :
    writeBytes v hrp bs = text ↔ pad = List.replicate (fill bs.length) false := by
  rw [writeBytes_eq_spell, ← spelled]
  constructor
  · intro same
    exact (spell_injective (leftover_fill bs.length) left same).symm
  · intro zeros
    rw [zeros]

section

variable {hrp : String} {size : Nat}

/-- Of the texts that spell bytes, the one with zeros behind them and no more is written. -/
theorem exists_spelled_iff {P : List Bool → Prop} (length : bs.length = size)
    (sizes : ∀ pad, Leftover size pad ↔ P pad) :
    (∃ pad, P pad ∧ spell v hrp bs pad = text) ↔
      ∃ pad, P pad ∧ spell v hrp bs pad = text ∧
        (writeBytes v hrp bs = text ↔ pad = List.replicate (fill size) false) := by
  subst length
  constructor
  · rintro ⟨pad, fits, spelled⟩
    exact ⟨pad, fits, spelled, writeBytes_eq_iff ((sizes pad).mpr fits) spelled⟩
  · rintro ⟨pad, fits, spelled, -⟩
    exact ⟨pad, fits, spelled⟩

/-- A text is read as a prefix and bytes, whatever is left over, exactly if it spells them. -/
theorem exists_read_iff (valid : isHrp hrp.toList = true) (small : hrp.toList.any isUpper = false)
    (length : bs.length = size)
    (short : 5 * hrp.toList.length + 8 * size + 42 ≤ 5 * maxLength) :
    (∃ c, read v text = .ok c ∧ c.hrp = hrp ∧ c.bytes = bs) ↔
      OneCase text.toList ∧ ∃ pad, Leftover size pad ∧ spell v hrp bs pad = text.toLower := by
  subst length
  constructor
  · rintro ⟨c, read, rfl, bytes⟩
    obtain ⟨-, one, written⟩ := read_eq_ok_iff.mp read
    obtain ⟨pad, left, groups⟩ := bytesOf_eq_iff.mp bytes
    refine ⟨one, pad, left, ?_⟩
    rw [spell, groups, written]
  · rintro ⟨one, pad, left, written⟩
    have sizes := congrArg List.length (bitsOfGroups_padded left)
    rw [length_bitsOfGroups, List.length_append, length_bitsOfBytes] at sizes
    have few := left.few
    refine ⟨⟨hrp, groupsOfBits (bitsOfBytes bs ++ pad)⟩, ?_, rfl, ?_⟩
    · refine read_eq_ok_iff.mpr ⟨⟨valid, small, ?_⟩, one, written⟩
      show hrp.toList.length + (groupsOfBits (bitsOfBytes bs ++ pad)).length + 7 ≤ maxLength
      omega
    · exact bytesOf_eq_iff.mpr ⟨pad, left, rfl⟩

end

end

end MoveWallet.Bech32
