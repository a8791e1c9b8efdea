/-
# MoveWallet.Proofs.Move.Parameters — where a parameter list is cut

The cut of a list is one pass that counts open brackets.  `Passes d u d'` says what a text does to
that pass: begun inside `d` brackets it cuts nothing and leaves `d'` open.  Texts that follow one
another pass one after another, so what a bracketed text does comes from its inside, and a list of
texts that pass at the outermost level is cut at the commas between them (`cutParams?_join`).  The
parts of any text, with the commas put back, are the text (`joinTo_of_cutParams?`).
-/
import MoveWallet.Move.TypeTag.Parser

namespace MoveWallet.Move

set_option autoImplicit false

open MoveWallet.Text.Blank

/-! ## Texts in front of the first part -/

/-- Puts a text in front of the first part. -/
def prepend (u : List Char) (parts : List (List Char)) : List (List Char) := u.foldr consFirst parts

theorem prepend_append (u v : List Char) (parts : List (List Char)) :
    prepend (u ++ v) parts = prepend u (prepend v parts) := List.foldr_append

theorem prepend_cons (u part : List Char) (parts : List (List Char)) :
    prepend u (part :: parts) = (u ++ part) :: parts := by
  induction u with
  | nil => rfl
  | cons c u ih =>
    show consFirst c (prepend u (part :: parts)) = _
    rw [ih]
    rfl

/-! ## One character -/

theorem cutParams?_opening (d : Nat) (s : List Char) :
    cutParams? d ('<' :: s) = (cutParams? (d + 1) s).map (consFirst '<') := by
  rw [cutParams?.eq_def]
  simp only [if_true]

theorem cutParams?_closing (d : Nat) (s : List Char) :
    cutParams? (d + 1) ('>' :: s) = (cutParams? d s).map (consFirst '>') := by
  rw [cutParams?.eq_def]
  rfl

theorem cutParams?_comma (s : List Char) :
    cutParams? 0 (',' :: s) = (cutParams? 0 s).map ([] :: ·) := by
  rw [cutParams?.eq_def]
  rfl

/-- A character that is no bracket; a comma, if it stands inside brackets. -/
theorem cutParams?_char {d : Nat} {c : Char} (left : c ≠ '<') (right : c ≠ '>')
    (inside : c ≠ ',' ∨ 0 < d) (s : List Char) :
    cutParams? d (c :: s) = (cutParams? d s).map (consFirst c) := by
  have stays : ¬ (c = ',' && d == 0) = true := by
    rw [Bool.and_eq_true, decide_eq_true_eq, beq_iff_eq]
    rintro ⟨comma, outside⟩
    rcases inside with other | deep
    · exact other comma
    · omega
  rw [cutParams?.eq_def]
  simp only [if_neg left, if_neg right, if_neg stays]

/-- A character that is no bracket and no comma. -/
def isPlain (c : Char) : Bool := c != '<' && c != '>' && c != ','

theorem isPlain_iff {c : Char} : isPlain c = true ↔ c ≠ '<' ∧ c ≠ '>' ∧ c ≠ ',' := by
  simp [isPlain, and_assoc]

/-! ## Passing over a text -/

/-- From inside `d` brackets, a text is passed over without a cut and leaves `d'` brackets open. -/
def Passes (d : Nat) (u : List Char) (d' : Nat) : Prop :=
  ∀ s, cutParams? d (u ++ s) = (cutParams? d' s).map (prepend u)

namespace Passes

variable {d d' d'' : Nat} {u v : List Char}

theorem nil (d : Nat) : Passes d [] d := by
  intro s
  show cutParams? d s = (cutParams? d s).map id
  rw [Option.map_id, id]

theorem append (first : Passes d u d') (second : Passes d' v d'') : Passes d (u ++ v) d'' := by
  intro s
  rw [List.append_assoc, first, second, Option.map_map]
  congr 1
  funext parts
  exact (prepend_append u v parts).symm

theorem opening (d : Nat) : Passes d ['<'] (d + 1) := fun s => cutParams?_opening d s

theorem closing (d : Nat) : Passes (d + 1) ['>'] d := fun s => cutParams?_closing d s

theorem char {c : Char} (left : c ≠ '<') (right : c ≠ '>') (inside : c ≠ ',' ∨ 0 < d) :
    Passes d [c] d :=
  fun s => cutParams?_char left right inside s

/-- A text without brackets and commas is passed over. -/
theorem plain (d : Nat) (h : u.all isPlain = true) : Passes d u d := by
  induction u with
  | nil => exact nil d
  | cons c u ih =>
    rw [List.all_cons, Bool.and_eq_true, isPlain_iff] at h
    obtain ⟨⟨left, right, comma⟩, others⟩ := h
    exact (char left right (.inl comma)).append (ih others)

/-- A text that is passed over inside brackets is passed over with brackets round it. -/
theorem brackets (inside : Passes (d + 1) u (d + 1)) : Passes d (['<'] ++ u ++ ['>']) d :=
  ((opening d).append inside).append (closing d)

end Passes

/-! ## Lists -/

/-- Texts that are passed over outside all brackets are what a list of them is cut into. -/
theorem cutParams?_join {u : List Char} {us : List (List Char)} (first : Passes 0 u 0)
    (others : ∀ v ∈ us, Passes 0 v 0) :
    cutParams? 0 (u ++ us.flatMap (',' :: ·)) = some (u :: us) := by
  induction us generalizing u with
  | nil =>
    rw [first]
    show some (prepend u [[]]) = _
    rw [prepend_cons, List.append_nil]
  | cons v us ih =>
    rw [List.forall_mem_cons] at others
    have rest := ih others.1 others.2
    have cut : cutParams? 0 (',' :: (v ++ us.flatMap (',' :: ·))) = some ([] :: v :: us) := by
      rw [cutParams?_comma, rest]
      rfl
    rw [List.flatMap_cons, List.cons_append, first, cut]
    show some (prepend u ([] :: v :: us)) = _
    rw [prepend_cons, List.append_nil]

/-- Parts, of which there is one at least, are with commas between them a text. -/
def JoinTo (parts : List (List Char)) (s : List Char) : Prop :=
  ∃ u us, parts = u :: us ∧ s = u ++ us.flatMap (',' :: ·)

theorem JoinTo.consFirst {parts : List (List Char)} {s : List Char} (h : JoinTo parts s)
    (c : Char) : JoinTo (consFirst c parts) (c :: s) := by
  obtain ⟨u, us, rfl, rfl⟩ := h
  exact ⟨c :: u, us, rfl, rfl⟩

theorem JoinTo.comma {parts : List (List Char)} {s : List Char} (h : JoinTo parts s) :
    JoinTo ([] :: parts) (',' :: s) := by
  obtain ⟨u, us, rfl, rfl⟩ := h
  exact ⟨[], u :: us, rfl, rfl⟩

/-- Whatever a text is cut into joins to the text. -/
theorem joinTo_of_cutParams? {d : Nat} {s : List Char} {parts : List (List Char)}
    (h : cutParams? d s = some parts) : JoinTo parts s := by
  fun_induction cutParams? d s generalizing parts with
  | case1 =>
    cases h
    exact ⟨[], [], rfl, rfl⟩
  | case2 => cases h
  | case3 d s ih =>
    obtain ⟨inner, found, rfl⟩ := Option.map_eq_some_iff.mp h
    exact (ih found).consFirst '<'
  | case4 s => cases h
  | case5 s outer different ih =>
    obtain ⟨inner, found, rfl⟩ := Option.map_eq_some_iff.mp h
    exact (ih found).consFirst '>'
  | case6 d c s left right comma ih =>
    rw [Bool.and_eq_true, decide_eq_true_eq] at comma
    obtain ⟨rfl, -⟩ := comma
    obtain ⟨inner, found, rfl⟩ := Option.map_eq_some_iff.mp h
    exact (ih found).comma
  | case7 d c s left right other ih =>
    obtain ⟨inner, found, rfl⟩ := Option.map_eq_some_iff.mp h
    exact (ih found).consFirst c

/-- The entries of a list are the parts it is cut into, of which none is blank. -/
theorem splitParams?_eq_some {s : List Char} {parts : List (List Char)} :
    splitParams? s = some parts ↔
      cutParams? 0 s = some parts ∧ ∀ part ∈ parts, isBlankText part = false := by
  have solid : ¬ parts.any isBlankText = true ↔ ∀ part ∈ parts, isBlankText part = false := by
    simp
  rw [← solid, splitParams?]
  constructor
  · intro h
    split at h
    · rename_i cut found
      split at h
      · cases h
      · rename_i some
        cases h
        exact ⟨found, some⟩
    · cases h
  · rintro ⟨found, some⟩
    simp only [found, if_neg some]

theorem joinTo_of_splitParams? {s : List Char} {parts : List (List Char)}
    (h : splitParams? s = some parts) : JoinTo parts s :=
  joinTo_of_cutParams? (splitParams?_eq_some.mp h).1

/-- There is a part for each comma and one more, and no part is longer than the text. -/
theorem JoinTo.length_le {parts : List (List Char)} {s : List Char} (h : JoinTo parts s) :
    parts.length ≤ s.length + 1 ∧ ∀ part ∈ parts, part.length ≤ s.length := by
  obtain ⟨u, us, rfl, rfl⟩ := h
  induction us generalizing u with
  | nil => simp
  | cons v us ih =>
    obtain ⟨count, sizes⟩ := ih v
    simp only [List.length_cons] at count
    simp only [List.flatMap_cons, List.length_append, List.length_cons, List.cons_append] at sizes ⊢
    rw [List.length_append] at count
    refine ⟨by omega, ?_⟩
    rw [List.forall_mem_cons]
    refine ⟨by omega, ?_⟩
    intro part member
    have size := sizes part member
    omega

/-- They are the entries of the list unless one of them is blank. -/
theorem splitParams?_join {u : List Char} {us : List (List Char)}
    (passes : ∀ v ∈ u :: us, Passes 0 v 0) (solid : ∀ v ∈ u :: us, isBlankText v = false) :
    splitParams? (u ++ us.flatMap (',' :: ·)) = some (u :: us) := by
  rw [List.forall_mem_cons] at passes
  exact splitParams?_eq_some.mpr ⟨cutParams?_join passes.1 passes.2, solid⟩

/-- A comma inside brackets does not cut, and brackets that do not match are refused. -/
example : splitParams? "a<b,c>, d".toList = some ["a<b,c>".toList, " d".toList] ∧
    splitParams? "a>,<b".toList = none := by
  decide

end MoveWallet.Move
