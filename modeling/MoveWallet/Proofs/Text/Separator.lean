/-
# MoveWallet.Proofs.Text.Separator — what is left of a text without its ends, or when it is cut

`dropPrefix?_eq_some` says that taking a beginning off leaves exactly what follows it, so asking
whether it can be taken off is asking whether the text begins with it (`isSome_dropPrefix?`); the
same holds of an end.  A text is cut behind the first part in which the separator cannot begin
(`splitFirst?_append`), or before the last part in which it cannot end (`splitLast?_append`), and
what it is cut into is the whole text (`append_of_splitFirst?`, `append_of_splitLast?`).
-/
import MoveWallet.Text.Separator

namespace MoveWallet.Text.Separator

set_option autoImplicit false

theorem dropPrefix?_eq_some {head s rest : List Char} :
    dropPrefix? head s = some rest ↔ s = head ++ rest := by
  fun_induction dropPrefix? head s with
  | case1 s => simp
  | case2 p ps => simp
  | case3 p ps s ih => simp [ih]
  | case4 p ps c s different =>
    simp only [reduceCtorEq, List.cons_append, List.cons.injEq, false_iff, not_and]
    intro same
    exact absurd same.symm different

theorem isSome_dropPrefix? {head s : List Char} :
    (dropPrefix? head s).isSome = true ↔ head <+: s := by
  rw [Option.isSome_iff_exists]
  constructor
  · rintro ⟨rest, dropped⟩
    exact ⟨rest, (dropPrefix?_eq_some.mp dropped).symm⟩
  · rintro ⟨rest, whole⟩
    exact ⟨rest, dropPrefix?_eq_some.mpr whole.symm⟩

/-- A text without one of its characters does not begin with it. -/
theorem dropPrefix?_eq_none {head s : List Char} {c : Char} (member : c ∈ head) (absent : c ∉ s) :
    dropPrefix? head s = none := by
  rw [Option.eq_none_iff_forall_ne_some]
  intro rest dropped
  rw [dropPrefix?_eq_some.mp dropped] at absent
  exact absent (List.mem_append_left rest member)

theorem dropSuffix?_eq_some {tail s rest : List Char} :
    dropSuffix? tail s = some rest ↔ s = rest ++ tail := by
  rw [dropSuffix?, Option.map_eq_some_iff]
  constructor
  · rintro ⟨back, dropped, rfl⟩
    rw [← List.reverse_reverse s, dropPrefix?_eq_some.mp dropped, List.reverse_append,
      List.reverse_reverse]
  · rintro rfl
    exact ⟨rest.reverse, dropPrefix?_eq_some.mpr List.reverse_append, List.reverse_reverse rest⟩

/-! ## Cutting at a separator -/

/-- No separator begins with a character that is not its first. -/
theorem dropPrefix?_of_ne {x c : Char} {sep s : List Char} (other : x ≠ c) :
    dropPrefix? (x :: sep) (c :: s) = none := by
  rw [dropPrefix?, if_neg other]

theorem splitFirst?_append {x : Char} {sep before : List Char} (after : List Char)
    (absent : x ∉ before) :
    splitFirst? (x :: sep) (before ++ x :: sep ++ after) = some (before, after) := by
  induction before with
  | nil =>
    have found : dropPrefix? (x :: sep) (x :: (sep ++ after)) = some after :=
      dropPrefix?_eq_some.mpr rfl
    simp only [List.nil_append, List.cons_append, splitFirst?, found]
  | cons c before ih =>
    rw [List.mem_cons, not_or] at absent
    obtain ⟨other, later⟩ := absent
    rw [List.cons_append, List.cons_append, splitFirst?, dropPrefix?_of_ne other, ih later]
    rfl

theorem splitFirst?_eq_none {x : Char} {sep s : List Char} (absent : x ∉ s) :
    splitFirst? (x :: sep) s = none := by
  induction s with
  | nil => rfl
  | cons c s ih =>
    rw [List.mem_cons, not_or] at absent
    obtain ⟨other, later⟩ := absent
    rw [splitFirst?, dropPrefix?_of_ne other, ih later]
    rfl

theorem append_of_splitFirst? {sep s before after : List Char}
    (h : splitFirst? sep s = some (before, after)) : s = before ++ sep ++ after := by
  induction s generalizing before with
  | nil => cases h
  | cons c s ih =>
    rw [splitFirst?] at h
    split at h
    · rename_i rest found
      cases h
      exact dropPrefix?_eq_some.mp found
    · obtain ⟨⟨front, rest⟩, cut, made⟩ := Option.map_eq_some_iff.mp h
      cases made
      rw [ih cut]
      rfl

/-- A separator is found wherever it stands. -/
theorem contains_append {x : Char} {sep : List Char} (before after : List Char) :
    contains (x :: sep) (before ++ x :: sep ++ after) = true := by
  induction before with
  | nil =>
    have found : dropPrefix? (x :: sep) (x :: (sep ++ after)) = some after :=
      dropPrefix?_eq_some.mpr rfl
    simp only [contains, List.nil_append, List.cons_append, splitFirst?, found, Option.isSome_some]
  | cons c before ih =>
    rw [contains, List.cons_append, List.cons_append, splitFirst?]
    split
    · rfl
    · rw [Option.isSome_map]
      exact ih

/-! ## The last separator -/

theorem append_of_splitLast? {sep s before after : List Char}
    (h : splitLast? sep s = some (before, after)) : s = before ++ sep ++ after := by
  induction s generalizing before with
  | nil => cases h
  | cons c s ih =>
    rw [splitLast?] at h
    split at h
    · rename_i front rest later
      cases h
      rw [ih later]
      rfl
    · obtain ⟨rest, found, made⟩ := Option.map_eq_some_iff.mp h
      cases made
      exact dropPrefix?_eq_some.mp found

variable {y : Char} {front before after : List Char}

/-- No separator stands where its last character is in none but the first places. -/
theorem splitLast?_eq_none {s : List Char} (absent : y ∉ s.drop front.length) :
    splitLast? (front ++ [y]) s = none := by
  rw [Option.eq_none_iff_forall_ne_some]
  rintro ⟨before, after⟩ cut
  apply absent
  rw [append_of_splitLast? cut, ← List.append_assoc, List.append_assoc]
  rw [List.drop_append_of_le_length (by simp)]
  exact List.mem_append_right _ List.mem_cons_self

/-- A text is cut at the separator behind which its last character does not come again. -/
theorem splitLast?_append (before : List Char) (absent : y ∉ after) :
    splitLast? (front ++ [y]) (before ++ (front ++ [y]) ++ after) = some (before, after) := by
  induction before with
  | nil =>
    obtain ⟨c, rest, shape⟩ := List.exists_cons_of_ne_nil (List.concat_ne_nil y front)
    have size : rest.length = front.length := by simpa using (congrArg List.length shape).symm
    have later : splitLast? (front ++ [y]) (rest ++ after) = none := by
      apply splitLast?_eq_none
      rw [List.drop_left' size]
      exact absent
    have here : dropPrefix? (front ++ [y]) (front ++ [y] ++ after) = some after :=
      dropPrefix?_eq_some.mpr rfl
    have whole : front ++ [y] ++ after = c :: (rest ++ after) := by rw [shape, List.cons_append]
    rw [whole] at here
    rw [List.nil_append, whole, splitLast?, later, here]
    rfl
  | cons c before ih =>
    rw [List.cons_append, List.cons_append, splitLast?, ih]

end MoveWallet.Text.Separator
