/-
# MoveWallet.Proofs.Text.Blank — trimming takes off the blanks round a text and nothing else

A text is `Tight` if neither its first nor its last character is blank.  Whatever blanks are put
round a tight text, trimming gives it back (`trim_around`).  Text that begins and ends with words,
which have no blanks at all, is tight, and hex text is.
-/
import MoveWallet.Proofs.Text.Hex
import MoveWallet.Text.Blank

namespace MoveWallet.Text.Blank

set_option autoImplicit false

/-- A text whose first and last characters are there and are not blank. -/
structure Tight (s : List Char) : Prop where
  first : ∃ c, s.head? = some c ∧ isBlank c = false
  last : ∃ c, s.getLast? = some c ∧ isBlank c = false

theorem dropWhile_append_of_blank {blanks s : List Char} (blank : isBlankText blanks = true)
    (first : ∃ c, s.head? = some c ∧ isBlank c = false) :
    (blanks ++ s).dropWhile isBlank = s := by
  obtain ⟨c, head, solid⟩ := first
  obtain ⟨rest, rfl⟩ := List.head?_eq_some_iff.mp head
  have stop : ¬ isBlank c = true := by
    rw [solid]
    exact Bool.false_ne_true
  rw [List.dropWhile_append_of_pos (List.all_eq_true.mp blank), List.dropWhile_cons_of_neg stop]

/-- A tight text is what trimming leaves of it, whatever blanks stand round it. -/
theorem trim_around {before s after : List Char} (tight : Tight s)
    (blankBefore : isBlankText before = true) (blankAfter : isBlankText after = true) :
    trim (before ++ s ++ after) = s := by
  obtain ⟨c, head, solid⟩ := tight.first
  obtain ⟨d, last, solid'⟩ := tight.last
  have begun : trimStart (before ++ s ++ after) = s ++ after := by
    have first : (s ++ after).head? = some c := by
      rw [List.head?_append, head]
      rfl
    rw [trimStart, List.append_assoc]
    exact dropWhile_append_of_blank blankBefore ⟨c, first, solid⟩
  have ended : (after.reverse ++ s.reverse).dropWhile isBlank = s.reverse := by
    have blank : isBlankText after.reverse = true := by
      rw [isBlankText, List.all_reverse]
      exact blankAfter
    have first : s.reverse.head? = some d := by
      rw [List.head?_reverse, last]
    exact dropWhile_append_of_blank blank ⟨d, first, solid'⟩
  rw [trim, begun, trimEnd, List.reverse_append, ended, List.reverse_reverse]

theorem trim_of_tight {s : List Char} (tight : Tight s) : trim s = s := by
  have around : trim ([] ++ s ++ []) = s := trim_around tight rfl rfl
  rw [List.nil_append, List.append_nil] at around
  exact around

/-- The end that is taken off is blank. -/
theorem exists_trimStart_eq (s : List Char) :
    ∃ after, trimStart s = trim s ++ after ∧ isBlankText after = true := by
  refine ⟨((trimStart s).reverse.takeWhile isBlank).reverse, ?_, ?_⟩
  · rw [trim, trimEnd, ← List.reverse_append, List.takeWhile_append_dropWhile, List.reverse_reverse]
  · rw [isBlankText, List.all_reverse]
    exact List.all_takeWhile

/-- What trimming leaves stands in the text, between the blanks that it takes off. -/
theorem exists_append_trim (s : List Char) :
    ∃ before after, s = before ++ trim s ++ after ∧ isBlankText before = true ∧
      isBlankText after = true := by
  obtain ⟨after, back, blank⟩ := exists_trimStart_eq s
  refine ⟨s.takeWhile isBlank, after, ?_, List.all_takeWhile, blank⟩
  rw [List.append_assoc, ← back]
  exact List.takeWhile_append_dropWhile.symm

/-- A character that is not blank is not taken off. -/
theorem mem_trim {s : List Char} {c : Char} (member : c ∈ s) (solid : isBlank c = false) :
    c ∈ trim s := by
  obtain ⟨before, after, whole, blankBefore, blankAfter⟩ := exists_append_trim s
  have outside : ∀ blanks : List Char, isBlankText blanks = true → c ∉ blanks := by
    intro blanks blank among
    rw [List.all_eq_true.mp blank c among] at solid
    cases solid
  rw [whole, List.mem_append, List.mem_append] at member
  rcases member with (among | inside) | among
  · exact absurd among (outside before blankBefore)
  · exact inside
  · exact absurd among (outside after blankAfter)

/-- What trimming leaves is tight, if it leaves anything. -/
theorem tight_trim {s : List Char} (left : trim s ≠ []) : Tight (trim s) := by
  have begins : ∀ {t : List Char}, t.dropWhile isBlank ≠ [] →
      ∃ c, (t.dropWhile isBlank).head? = some c ∧ isBlank c = false := fun there =>
    ⟨_, List.head?_eq_some_head there, List.head_dropWhile_not isBlank there⟩
  -- the front is that of the text that still has the blanks behind it
  obtain ⟨after, whole, -⟩ := exists_trimStart_eq s
  have same : (trimStart s).head? = (trim s).head? := by
    rw [whole, List.head?_append, List.head?_eq_some_head left]
    rfl
  have started : trimStart s ≠ [] := by
    rw [whole]
    exact List.append_ne_nil_of_left_ne_nil left after
  have ended : (trimStart s).reverse.dropWhile isBlank ≠ [] := by
    simpa [trim, trimEnd] using left
  refine ⟨same ▸ begins started, ?_⟩
  rw [trim, trimEnd, List.getLast?_reverse]
  exact begins ended

theorem trim_trim (s : List Char) : trim (trim s) = trim s := by
  by_cases none : trim s = []
  · rw [none]
    rfl
  · exact trim_of_tight (tight_trim none)

/-- A front of a text that does not begin with a blank does not begin with one. -/
theorem exists_head?_of_append {s t : List Char} (left : s ≠ [])
    (first : ∃ c, (s ++ t).head? = some c ∧ isBlank c = false) :
    ∃ c, s.head? = some c ∧ isBlank c = false := by
  have same : (s ++ t).head? = s.head? := by
    rw [List.head?_append, List.head?_eq_some_head left]
    rfl
  rwa [same] at first

/-- No front of what trimming leaves begins with a blank. -/
theorem exists_head?_of_trim {s t u : List Char} (left : t ≠ []) (whole : trim s = t ++ u) :
    ∃ c, t.head? = some c ∧ isBlank c = false := by
  have tight : Tight (trim s) := tight_trim (by simp [whole, left])
  rw [whole] at tight
  exact exists_head?_of_append left tight.first

/-- From a text that does not begin with a blank only its end is taken off. -/
theorem exists_eq_trim_append {s : List Char}
    (first : ∃ c, s.head? = some c ∧ isBlank c = false) :
    ∃ after, s = trim s ++ after ∧ isBlankText after = true := by
  have none : isBlankText [] = true := rfl
  have begun : trimStart s = s := dropWhile_append_of_blank none first
  obtain ⟨after, whole, blank⟩ := exists_trimStart_eq s
  rw [begun] at whole
  exact ⟨after, whole, blank⟩

theorem isBlank_of_any {s : List Char} (solid : s.any isBlank = false) :
    ∀ c ∈ s, isBlank c = false := by
  intro c member
  exact Bool.eq_false_iff.mpr (List.any_eq_false.mp solid c member)

theorem length_trim_le (s : List Char) : (trim s).length ≤ s.length := by
  obtain ⟨before, after, whole, -, -⟩ := exists_append_trim s
  have size := congrArg List.length whole
  simp only [List.length_append] at size
  omega

/-- What ends with a text that is there and has no blanks ends with a character that is not one. -/
theorem exists_getLast?_append (s : List Char) {t : List Char} (back : t ≠ [])
    (solid : ∀ c ∈ t, isBlank c = false) : ∃ c, (s ++ t).getLast? = some c ∧ isBlank c = false := by
  refine ⟨t.getLast back, ?_, solid _ (List.getLast_mem back)⟩
  rw [List.getLast?_append, List.getLast?_eq_some_getLast back]
  rfl

/-- A text is tight if it begins and ends with texts that are there and have no blanks. -/
theorem tight_append {s t : List Char} (mid : List Char) (front : s ≠ []) (back : t ≠ [])
    (solidFront : ∀ c ∈ s, isBlank c = false) (solidBack : ∀ c ∈ t, isBlank c = false) :
    Tight (s ++ mid ++ t) := by
  refine ⟨⟨s.head front, ?_, solidFront _ (List.head_mem front)⟩,
    exists_getLast?_append _ back solidBack⟩
  rw [List.append_assoc, List.head?_append, List.head?_eq_some_head front]
  rfl

/-- A text without blanks is tight. -/
theorem tight_of_forall {s : List Char} (some : s ≠ []) (solid : ∀ c ∈ s, isBlank c = false) :
    Tight s :=
  ⟨⟨_, List.head?_eq_some_head some, solid _ (List.head_mem some)⟩,
    ⟨_, List.getLast?_eq_some_getLast some, solid _ (List.getLast_mem some)⟩⟩

/-- Visible ASCII characters are not blank. -/
theorem isBlank_of_visible {c : Char} (least : 33 ≤ c.toNat) (most : c.toNat ≤ 126) :
    isBlank c = false := by
  rw [← Bool.not_eq_true, isBlank]
  simp only [Bool.or_eq_true, Bool.and_eq_true, decide_eq_true_eq, beq_iff_eq]
  omega

/-- A tight text is not blank. -/
theorem isBlankText_of_tight {s : List Char} (tight : Tight s) : isBlankText s = false := by
  obtain ⟨c, first, solid⟩ := tight.first
  rw [isBlankText, List.all_eq_false]
  exact ⟨c, List.mem_of_head? first, by rw [solid]; exact Bool.false_ne_true⟩

/-! ## Hex text -/

theorem isBlank_digit : ∀ n < 16, isBlank (Hex.digit n) = false := by
  decide

end MoveWallet.Text.Blank
