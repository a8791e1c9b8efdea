/-
# MoveWallet.Proofs.Move.AtomicEntries — a parameter list is cut into atomic entries, and in one way

An entry is atomic if its brackets match from left to right, its commas stand inside brackets and it
is not blank (`Atomic`).  The pass that cuts a list counts open brackets as it goes, so the entries
are described for any number of brackets open in front of them (`Closes`): one character changes
that number in the same way for the text and for the pass (`closes_cons`, `passes_character`).  From
this a text that closes is passed over, and every part of a cut closes, by induction along the pass.
-/
import MoveWallet.Proofs.Move.Parameters

namespace MoveWallet.Move

set_option autoImplicit false

open MoveWallet.Text.Blank

/-! ## Matching brackets -/

/-- There are as many closing brackets as opening ones, and in no beginning of the text more. -/
structure Balanced (s : List Char) : Prop where
  equal : s.count '<' = s.count '>'
  prefixes : ∀ p, p <+: s → p.count '>' ≤ p.count '<'

/-- A text that is one entry of a parameter list: its brackets match, more are opened than closed
before every comma, and it is not blank. -/
structure Atomic (s : List Char) : Prop where
  balanced : Balanced s
  inside : ∀ p, p ++ [','] <+: s → p.count '>' < p.count '<'
  solid : isBlankText s = false

/-- Behind `d` open brackets, a text closes all that are open and no more, and every comma stands
where a bracket is open. -/
structure Closes (d : Nat) (s : List Char) : Prop where
  equal : d + s.count '<' = s.count '>'
  prefixes : ∀ p, p <+: s → p.count '>' ≤ d + p.count '<'
  inside : ∀ p, p ++ [','] <+: s → p.count '>' < d + p.count '<'

theorem atomic_iff {s : List Char} : Atomic s ↔ Closes 0 s ∧ isBlankText s = false := by
  constructor
  · rintro ⟨⟨equal, prefixes⟩, inside, solid⟩
    exact ⟨⟨by simpa using equal, by simpa using prefixes, by simpa using inside⟩, solid⟩
  · rintro ⟨⟨equal, prefixes, inside⟩, solid⟩
    exact ⟨⟨by simpa using equal, by simpa using prefixes⟩, by simpa using inside, solid⟩

theorem closes_nil {d : Nat} : Closes d [] ↔ d = 0 := by
  constructor
  · rintro ⟨equal, -, -⟩
    simpa using equal
  · rintro rfl
    exact ⟨rfl, by simp, by simp⟩

/-! ## One character -/

/-- After the character `c`, `d` open brackets have become `d'`, and a comma finds one open. -/
structure Moves (d : Nat) (c : Char) (d' : Nat) : Prop where
  level : d + (if c == '<' then 1 else 0) = d' + if c == '>' then 1 else 0
  inside : c = ',' → 0 < d

theorem moves_opening (d : Nat) : Moves d '<' (d + 1) := ⟨by simp, by simp⟩

theorem moves_closing (d : Nat) : Moves (d + 1) '>' d := ⟨by simp, by simp⟩

theorem moves_other {d : Nat} {c : Char} (left : c ≠ '<') (right : c ≠ '>')
    (inside : c = ',' → 0 < d) : Moves d c d :=
  ⟨by simp [left, right], inside⟩

/-- A character changes the counts of a text behind it as it changes the number of open brackets. -/
theorem Moves.counts {d d' : Nat} {c : Char} (h : Moves d c d') (s : List Char) :
    d + (c :: s).count '<' + s.count '>' = d' + s.count '<' + (c :: s).count '>' := by
  have level := h.level
  rw [List.count_cons, List.count_cons]
  omega

theorem closes_cons {d d' : Nat} {c : Char} {s : List Char} (h : Moves d c d') :
    Closes d (c :: s) ↔ Closes d' s := by
  have whole := h.counts s
  constructor
  · rintro ⟨equal, prefixes, inside⟩
    refine ⟨by omega, ?_, ?_⟩
    · intro p front
      have bound := prefixes (c :: p) (List.cons_prefix_cons.mpr ⟨rfl, front⟩)
      have counts := h.counts p
      omega
    · intro p front
      have bound := inside (c :: p) (List.cons_prefix_cons.mpr ⟨rfl, front⟩)
      have counts := h.counts p
      omega
  · rintro ⟨equal, prefixes, inside⟩
    refine ⟨by omega, ?_, ?_⟩
    -- a beginning of the longer text is empty or ends behind `c`
    · intro p front
      cases p with
      | nil => simp
      | cons e p =>
        obtain ⟨rfl, rest⟩ := List.cons_prefix_cons.mp front
        have bound := prefixes p rest
        have counts := h.counts p
        omega
    · intro p front
      cases p with
      | nil =>
        obtain ⟨comma, -⟩ := List.cons_prefix_cons.mp front
        simpa using h.inside comma.symm
      | cons e p =>
        obtain ⟨rfl, rest⟩ := List.cons_prefix_cons.mp front
        have bound := inside p rest
        have counts := h.counts p
        omega

/-- The first character of a text that closes leaves some number of brackets open. -/
theorem Closes.exists_moves {d : Nat} {c : Char} {s : List Char} (h : Closes d (c :: s)) :
    ∃ d', Moves d c d' := by
  have bound := h.prefixes [c] (List.cons_prefix_cons.mpr ⟨rfl, List.nil_prefix⟩)
  rw [List.count_singleton, List.count_singleton] at bound
  refine ⟨d + (if c == '<' then 1 else 0) - if c == '>' then 1 else 0, by omega, ?_⟩
  rintro rfl
  simpa using h.inside [] (List.cons_prefix_cons.mpr ⟨rfl, List.nil_prefix⟩)

theorem passes_character {d d' : Nat} {c : Char} (h : Moves d c d') : Passes d [c] d' := by
  obtain ⟨level, inside⟩ := h
  by_cases left : c = '<'
  · subst left
    obtain rfl : d' = d + 1 := by simpa using level.symm
    exact Passes.opening d
  · by_cases right : c = '>'
    · subst right
      obtain rfl : d = d' + 1 := by simpa using level
      exact Passes.closing d'
    · obtain rfl : d = d' := by simpa [left, right] using level
      exact Passes.char left right (Decidable.not_or_of_imp inside)

/-! ## The pass -/

/-- A text that closes is passed over. -/
theorem Closes.passes {d : Nat} {s : List Char} (h : Closes d s) : Passes d s 0 := by
  induction s generalizing d with
  | nil =>
    rw [closes_nil] at h
    subst h
    exact Passes.nil 0
  | cons c s ih =>
    obtain ⟨d', moves⟩ := h.exists_moves
    exact (passes_character moves).append (ih ((closes_cons moves).mp h))

/-- Of some parts the first closes behind `d` open brackets, and each other by itself. -/
def AllClose (d : Nat) (parts : List (List Char)) : Prop :=
  ∃ u us, parts = u :: us ∧ Closes d u ∧ ∀ v ∈ us, Closes 0 v

theorem AllClose.consFirst {d d' : Nat} {c : Char} {parts : List (List Char)}
    (h : AllClose d' parts) (moves : Moves d c d') : AllClose d (consFirst c parts) := by
  obtain ⟨u, us, rfl, first, others⟩ := h
  exact ⟨c :: u, us, rfl, (closes_cons moves).mpr first, others⟩

theorem AllClose.comma {parts : List (List Char)} (h : AllClose 0 parts) :
    AllClose 0 ([] :: parts) := by
  obtain ⟨u, us, rfl, first, others⟩ := h
  exact ⟨[], u :: us, rfl, closes_nil.mpr rfl, List.forall_mem_cons.mpr ⟨first, others⟩⟩

/-- Whatever a text is cut into closes. -/
theorem allClose_of_cutParams? {d : Nat} {s : List Char} {parts : List (List Char)}
    (h : cutParams? d s = some parts) : AllClose d parts := by
  fun_induction cutParams? d s generalizing parts with
  | case1 =>
    cases h
    exact ⟨[], [], rfl, closes_nil.mpr rfl, by simp⟩
  | case2 => cases h
  | case3 d s ih =>
    obtain ⟨inner, found, rfl⟩ := Option.map_eq_some_iff.mp h
    exact (ih found).consFirst (moves_opening d)
  | case4 s => cases h
  | case5 s outer different ih =>
    obtain ⟨inner, found, rfl⟩ := Option.map_eq_some_iff.mp h
    exact (ih found).consFirst (moves_closing outer)
  | case6 d c s left right comma ih =>
    rw [Bool.and_eq_true, decide_eq_true_eq, beq_iff_eq] at comma
    obtain ⟨rfl, rfl⟩ := comma
    obtain ⟨inner, found, rfl⟩ := Option.map_eq_some_iff.mp h
    exact (ih found).comma
  | case7 d c s left right other ih =>
    obtain ⟨inner, found, rfl⟩ := Option.map_eq_some_iff.mp h
    have inside : c = ',' → 0 < d := by
      rintro rfl
      simpa [Nat.pos_iff_ne_zero] using other
    exact (ih found).consFirst (moves_other left right inside)

/-! ## Lists of entries -/

theorem intercalate_comma (u : List Char) (us : List (List Char)) :
    [','].intercalate (u :: us) = u ++ us.flatMap (',' :: ·) := by
  induction us generalizing u with
  | nil => simp
  | cons v us ih =>
    rw [List.intercalate_cons_cons, ih, List.flatMap_cons, List.append_assoc]
    rfl

theorem joinTo_iff {parts : List (List Char)} {s : List Char} :
    JoinTo parts s ↔ parts ≠ [] ∧ [','].intercalate parts = s := by
  constructor
  · rintro ⟨u, us, rfl, rfl⟩
    exact ⟨List.cons_ne_nil u us, intercalate_comma u us⟩
  · rintro ⟨some, rfl⟩
    obtain ⟨u, us, rfl⟩ := List.exists_cons_of_ne_nil some
    exact ⟨u, us, rfl, intercalate_comma u us⟩

theorem splitParams?_eq_some_iff {s : List Char} {parts : List (List Char)} :
    splitParams? s = some parts ↔ JoinTo parts s ∧ ∀ part ∈ parts, Atomic part := by
  constructor
  · intro h
    obtain ⟨cut, solid⟩ := splitParams?_eq_some.mp h
    refine ⟨joinTo_of_cutParams? cut, ?_⟩
    obtain ⟨u, us, rfl, first, others⟩ := allClose_of_cutParams? cut
    have closes := List.forall_mem_cons.mpr ⟨first, others⟩
    intro part member
    exact atomic_iff.mpr ⟨closes part member, solid part member⟩
  · rintro ⟨⟨u, us, rfl, rfl⟩, atomic⟩
    refine splitParams?_join ?_ ?_
    · intro part member
      exact (atomic_iff.mp (atomic part member)).1.passes
    · intro part member
      exact (atomic part member).solid

/-- A text is cut into parts exactly if these are atomic, there is one at least, and with commas
between them they are the text; a text that is no such list is refused. -/
theorem lists_of_atomic_entries (s : List Char) :
    (∀ parts, splitParams? s = some parts ↔
      parts ≠ [] ∧ (∀ part ∈ parts, Atomic part) ∧ [','].intercalate parts = s) ∧
      (splitParams? s = none ↔ ¬ ∃ parts,
        parts ≠ [] ∧ (∀ part ∈ parts, Atomic part) ∧ [','].intercalate parts = s) := by
  have found : ∀ parts, splitParams? s = some parts ↔
      parts ≠ [] ∧ (∀ part ∈ parts, Atomic part) ∧ [','].intercalate parts = s := by
    intro parts
    rw [splitParams?_eq_some_iff, joinTo_iff, and_right_comm, and_assoc]
  refine ⟨found, ?_⟩
  rw [Option.eq_none_iff_forall_ne_some, not_exists]
  exact forall_congr' fun parts => not_congr (found parts)

end MoveWallet.Move
