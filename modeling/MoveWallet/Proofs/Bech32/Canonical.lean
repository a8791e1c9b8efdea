/-
# MoveWallet.Proofs.Bech32.Canonical — text that is read is written again in lower case

What is read of a text determines it but for its case: `write_of_read` writes the text again in
lower case.  The six last groups are no choice of the writer, because six groups are the digits of a
number below 2^30 (`exists_digits`) and the state of the checksum says which number
(`eq_checksum_of_state`).  A text is right for one variant at most (`variant_unique`).
-/
import Mathlib.Data.List.Basic
import Mathlib.Tactic.SplitIfs
import MoveWallet.Proofs.Bech32.Text

namespace MoveWallet.Bech32

set_option autoImplicit false

open MoveWallet.Text.Reading

/-! ## Characters -/

theorem lower_eq_toLower (c : Char) : lower c = c.toLower := by
  have bounds : ('A' ≤ c && c ≤ 'Z') = true ↔ c.val ≥ 'A'.val ∧ c.val ≤ 'Z'.val := by
    rw [Bool.and_eq_true, decide_eq_true_eq, decide_eq_true_eq]
    rfl
  unfold lower Char.toLower
  by_cases capital : c.val ≥ 'A'.val ∧ c.val ≤ 'Z'.val
  · have most : c.toNat ≤ 90 := capital.2
    have valid : (c.toNat + 32).isValidChar := Or.inl (by omega)
    have sum : (c.val + ('a'.val - 'A'.val)).toNat = c.toNat + 32 := by
      rw [UInt32.toNat_add]
      exact Nat.mod_eq_of_lt (by change c.toNat + 32 < 2 ^ 32; omega)
    have number : (Char.ofNat (c.toNat + 32)).val.toNat = c.toNat + 32 := by
      rw [Char.ofNat, dif_pos valid]
      rfl
    rw [if_pos (bounds.mpr capital), dif_pos capital]
    apply Char.ext
    apply UInt32.toNat_inj.mp
    rw [sum, number]
  · rw [if_neg (fun h => capital (bounds.mp h)), dif_neg capital]

theorem toList_toLower (text : String) : text.toLower.toList = text.toList.map lower := by
  show (text.map Char.toLower).toList = text.toList.map lower
  rw [String.toList_map]
  exact List.map_congr_left fun c _ => (lower_eq_toLower c).symm

theorem groupChar_of_group? {c : Char} {g : Group} (h : group? c = some g) :
    groupChar g = lower c := by
  obtain ⟨i, found, rfl⟩ := Option.map_eq_some_iff.mp h
  obtain ⟨inside, same, -⟩ := List.findIdx?_eq_some_iff_getElem.mp found
  have small : i < 2 ^ 5 := inside
  rw [groupChar, BitVec.toNat_ofNat, Nat.mod_eq_of_lt small, List.getD_eq_getElem?_getD,
    List.getElem?_eq_getElem inside]
  exact eq_of_beq same

theorem cut?_eq_some {s hrp data : List Char} (h : cut? s = some (hrp, data)) :
    s = hrp ++ '1' :: data := by
  induction s generalizing hrp with
  | nil => cases h
  | cons c s ih =>
    rw [cut?] at h
    rcases later : cut? s with _ | ⟨before, behind⟩
    · simp only [later] at h
      by_cases separator : c = '1'
      · rw [if_pos separator] at h
        cases h
        rw [separator, List.nil_append]
      · rw [if_neg separator] at h
        cases h
    · simp only [later] at h
      cases h
      rw [ih later, List.cons_append]

/-- Text with the right characters is, in lower case, its prefix and the characters of its groups. -/
theorem map_lower_of_parts? {s hrp : List Char} {gs : List Group} (h : parts? s = some (hrp, gs)) :
    s.map lower = hrp ++ '1' :: gs.map groupChar := by
  simp only [parts?, Option.bind_eq_bind, Option.bind_eq_some_iff] at h
  obtain ⟨⟨raw, data⟩, cut, groups, read, rest⟩ := h
  split_ifs at rest
  cases rest
  have characters := map_eq_of_mapM (fun c g => groupChar_of_group? (c := c) (g := g)) read
  rw [cut?_eq_some cut, List.map_append, List.map_cons, characters]
  rfl

/-! ## The checksum -/

theorem digits_add_mul (n k x : Nat) : digits n (k * 2 ^ (5 * n) + x) = digits n x := by
  induction n generalizing k with
  | zero => rfl
  | succ n ih =>
    have shape : k * 2 ^ (5 * (n + 1)) + x = k * 2 ^ 5 * 2 ^ (5 * n) + x := by
      rw [Nat.mul_succ, Nat.add_comm (5 * n), Nat.pow_add, Nat.mul_assoc]
    have top : ((k * 2 ^ 5 * 2 ^ (5 * n) + x) >>> (5 * n)) % 2 ^ 5 = (x >>> (5 * n)) % 2 ^ 5 := by
      rw [Nat.shiftRight_eq_div_pow, Nat.shiftRight_eq_div_pow, Nat.add_comm,
        Nat.add_mul_div_right _ _ (Nat.two_pow_pos _), Nat.add_mul_mod_self_right]
    rw [digits, digits, shape, top, ih]

/-- Groups are the digits of a number. -/
theorem exists_digits (gs : List Group) :
    ∃ x < 2 ^ (5 * gs.length), digits gs.length x = gs.map BitVec.toNat := by
  induction gs with
  | nil => exact ⟨0, Nat.one_pos, rfl⟩
  | cons g gs ih =>
    obtain ⟨x, small, rest⟩ := ih
    have bound : g.toNat < 2 ^ 5 := g.isLt
    have top : ((g.toNat * 2 ^ (5 * gs.length) + x) >>> (5 * gs.length)) % 2 ^ 5 = g.toNat := by
      rw [Nat.shiftRight_eq_div_pow, Nat.add_comm, Nat.add_mul_div_right _ _ (Nat.two_pow_pos _),
        Nat.div_eq_of_lt small, Nat.zero_add, Nat.mod_eq_of_lt bound]
    refine ⟨g.toNat * 2 ^ (5 * gs.length) + x, ?_, ?_⟩
    · have most : g.toNat * 2 ^ (5 * gs.length) ≤ (2 ^ 5 - 1) * 2 ^ (5 * gs.length) :=
        Nat.mul_le_mul_right _ (Nat.le_sub_one_of_lt bound)
      rw [List.length_cons, Nat.mul_succ, Nat.pow_add]
      omega
    · rw [List.length_cons, digits, top, digits_add_mul, rest, List.map_cons]

/-- Six groups after which the state is the variant's constant are those that `checksum` appends. -/
theorem eq_checksum_of_state {v : Variant} {hrp : List Char} {gs tail : List Group}
    (six : tail.length = 6) (state : checksumState hrp (gs ++ tail) = v.residue) :
    tail = checksum v hrp gs := by
  obtain ⟨x, small, groups⟩ := exists_digits tail
  rw [six] at small groups
  have number : checksumState hrp (gs ++ List.replicate 6 0) ^^^ v.residue = x := by
    rw [← state, checksumState_digits small hrp gs groups.symm, ← Nat.xor_assoc, Nat.xor_self,
      Nat.zero_xor]
  have same : (checksum v hrp gs).map BitVec.toNat = tail.map BitVec.toNat := by
    rw [← groups, ← number]
    rfl
  exact (List.map_injective_iff.mpr (fun _ _ => BitVec.eq_of_toNat_eq) same).symm

/-! ## Reading -/

theorem read_eq_ok {v : Variant} {text : String} {c : Content} (h : read v text = .ok c) :
    ∃ hrp gs, parts? text.toList = some (hrp, gs) ∧ 6 ≤ gs.length ∧
      checksumState hrp gs = v.residue ∧ c = ⟨String.ofList hrp, gs.take (gs.length - 6)⟩ := by
  rcases parts : parts? text.toList with _ | ⟨hrp, gs⟩
  · simp [read, parts] at h
  · simp only [read, parts] at h
    split_ifs at h with refused
    simp only [Bool.or_eq_true, decide_eq_true_eq, ne_eq, not_or, not_not] at refused
    obtain ⟨⟨-, long⟩, state⟩ := refused
    cases h
    exact ⟨hrp, gs, rfl, Nat.le_of_not_lt long, state, rfl⟩

/-- Text is, in lower case, what is written of what it is read as. -/
theorem write_of_read {v : Variant} {text : String} {c : Content} (h : read v text = .ok c) :
    write v c.hrp c.groups = text.toLower := by
  obtain ⟨hrp, gs, parts, long, state, rfl⟩ := read_eq_ok h
  have split := List.take_append_drop (gs.length - 6) gs
  have six : (gs.drop (gs.length - 6)).length = 6 := by
    rw [List.length_drop]
    omega
  rw [← split] at state
  have tail := eq_checksum_of_state six state
  apply String.ext
  rw [toList_toLower, map_lower_of_parts? parts, write, String.toList_ofList,
    String.toList_ofList, ← tail, split]

/-- A text is right for one variant at most. -/
theorem variant_unique {v w : Variant} {text : String} {c d : Content} (first : read v text = .ok c)
    (second : read w text = .ok d) : v = w := by
  obtain ⟨hrp, gs, parts, -, state, -⟩ := read_eq_ok first
  obtain ⟨hrp', gs', parts', -, state', -⟩ := read_eq_ok second
  rw [parts] at parts'
  cases parts'
  rw [state] at state'
  revert state'
  cases v <;> cases w <;> decide

end MoveWallet.Bech32
