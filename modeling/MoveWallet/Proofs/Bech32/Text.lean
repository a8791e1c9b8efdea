/-
# MoveWallet.Proofs.Bech32.Text — text that is written is read back

`read_write`: under a valid prefix without capital letters, what `write` makes of groups is read as
that prefix and these groups, as long as the text is not too long.
-/
import MoveWallet.Proofs.Bech32.Checksum
import MoveWallet.Proofs.Text.Reading

namespace MoveWallet.Bech32

set_option autoImplicit false

/-! ## Characters -/

theorem groupChar_facts : ∀ g : Group, group? (groupChar g) = some g ∧ groupChar g ≠ '1' ∧
    isUpper (groupChar g) = false := by
  decide

theorem mapM_group? (gs : List Group) : (gs.map groupChar).mapM group? = some gs :=
  Text.Reading.mapM_map_eq_some fun g _ => (groupChar_facts g).1

theorem one_not_mem (gs : List Group) : '1' ∉ gs.map groupChar := by
  intro member
  obtain ⟨g, -, same⟩ := List.mem_map.mp member
  exact (groupChar_facts g).2.1 same

theorem any_isUpper_groups (gs : List Group) : (gs.map groupChar).any isUpper = false := by
  rw [List.any_eq_false]
  intro c member
  obtain ⟨g, -, rfl⟩ := List.mem_map.mp member
  rw [(groupChar_facts g).2.2]
  exact Bool.false_ne_true

theorem lower_of_not_isUpper {c : Char} (h : isUpper c = false) : lower c = c := by
  unfold isUpper at h
  rw [lower, h]
  rfl

theorem map_lower {s : List Char} (h : s.any isUpper = false) : s.map lower = s := by
  refine (List.map_congr_left ?_).trans (List.map_id s)
  intro c member
  have small := List.any_eq_false.mp h c member
  exact lower_of_not_isUpper (Bool.eq_false_iff.mpr small)

/-! ## The separator -/

theorem cut?_of_not_mem {s : List Char} (h : '1' ∉ s) : cut? s = none := by
  induction s with
  | nil => rfl
  | cons c s ih =>
    rw [List.mem_cons, not_or] at h
    rw [cut?, ih h.2]
    exact if_neg fun same => h.1 same.symm

/-- A text is cut at the separator behind which there is none. -/
theorem cut?_append {hrp data : List Char} (h : '1' ∉ data) :
    cut? (hrp ++ '1' :: data) = some (hrp, data) := by
  induction hrp with
  | nil =>
    rw [List.nil_append, cut?, cut?_of_not_mem h]
    rfl
  | cons c hrp ih => rw [List.cons_append, cut?, ih]

/-! ## Reading -/

/-- Text that is written is read as the prefix and the groups that it was written of. -/
theorem read_write (v : Variant) {hrp : String} {gs : List Group} (valid : isHrp hrp.toList = true)
    (small : hrp.toList.any isUpper = false)
    (short : hrp.toList.length + gs.length + 7 ≤ maxLength) :
    read v (write v hrp gs) = .ok ⟨hrp, gs⟩ := by
  have six : (checksum v hrp.toList gs).length = 6 := rfl
  have text : (write v hrp gs).toList =
      hrp.toList ++ '1' :: (gs ++ checksum v hrp.toList gs).map groupChar := String.toList_ofList
  have noCapital : (write v hrp gs).toList.any isUpper = false := by
    rw [text, List.any_append, small, List.any_cons, any_isUpper_groups]
    rfl
  have parts : parts? (write v hrp gs).toList =
      some (hrp.toList, gs ++ checksum v hrp.toList gs) := by
    have cut : cut? (write v hrp gs).toList =
        some (hrp.toList, (gs ++ checksum v hrp.toList gs).map groupChar) := by
      rw [text]
      exact cut?_append (one_not_mem _)
    simp only [parts?, cut, Option.bind_eq_bind, Option.bind_some, mapM_group?, noCapital,
      Bool.false_and, Bool.false_eq_true, if_false, valid, if_true, map_lower small]
    rfl
  have length : (write v hrp gs).toList.length = hrp.toList.length + gs.length + 7 := by
    rw [text, List.length_append, List.length_cons, List.length_map, List.length_append, six]
    omega
  have groups : (gs ++ checksum v hrp.toList gs).length - 6 = gs.length := by
    rw [List.length_append, six, Nat.add_sub_cancel]
  have enough : ¬ (gs ++ checksum v hrp.toList gs).length < 6 := by
    rw [List.length_append, six]
    omega
  have fits : ¬ (write v hrp gs).toList.length > maxLength := by
    rw [length]
    exact Nat.not_lt.mpr short
  simp only [read, parts, checksumState_checksum, fits, enough, decide_false, Bool.or_false,
    ne_eq, not_true_eq_false, Bool.false_eq_true, if_false, groups, List.take_left,
    String.ofList_toList]

end MoveWallet.Bech32
