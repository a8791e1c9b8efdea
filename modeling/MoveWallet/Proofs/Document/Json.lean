/-
# MoveWallet.Proofs.Document.Json — what is written as JSON is read back

A quoted text is read back character by character (`readText_escape`) and a number from its digits
(`readNumber_toDigits`), which end where no character of a number follows (`Ends`).  Lists and
tables are read back item by item, along the list of their items.  So every value that the notation
can say (`Plain`) is read back from its text, with blanks round it (`read?_write`): the text says
the value and nothing else.
-/
import Mathlib.Tactic.SplitIfs
import MoveWallet.Document.Json

namespace MoveWallet.Document.Json

set_option autoImplicit false

open MoveWallet.Text

/-! ## Blanks -/

theorem skip_cons {c : Char} (visible : isBlank c = false) (s : List Char) :
    skip (c :: s) = c :: s := by
  apply List.dropWhile_cons_of_neg
  rw [visible]
  exact Bool.false_ne_true

theorem skip_append {blanks : List Char} (blank : blanks.all isBlank = true) (s : List Char) :
    skip (blanks ++ s) = skip s :=
  List.dropWhile_append_of_pos (List.all_eq_true.mp blank)

theorem toList_newline (depth : Nat) :
    (newline depth).toList = '\n' :: List.replicate (2 * depth) ' ' := String.toList_ofList

theorem isBlank_newline (depth : Nat) : (newline depth).toList.all isBlank = true := by
  rw [toList_newline, List.all_eq_true]
  intro c member
  rcases List.mem_cons.mp member with rfl | space
  · rfl
  · rw [List.eq_of_mem_replicate space]
    rfl

/-! ## Texts -/

/-- What stands behind four hex digits does not matter to their number. -/
theorem readHex4_append (a b c d : Char) (rest : List Char) :
    readHex4 (a :: b :: c :: d :: rest) = (readHex4 [a, b, c, d]).map fun p => (p.1, rest) := by
  simp only [readHex4, Option.bind_eq_bind, Option.map_bind]
  rfl

/-- The escape of a character that cannot be shown says its number. -/
theorem readHex4_control {n : Nat} (small : n < 0x20) (rest : List Char) :
    readHex4 ('0' :: '0' :: Hex.digit (n / 16) :: Hex.digit (n % 16) :: rest) = some (n, rest) := by
  have table : ∀ k < 0x20, readHex4 ['0', '0', Hex.digit (k / 16), Hex.digit (k % 16)] =
      some (k, []) := by decide
  rw [readHex4_append, table n small]
  rfl

/-- An escape with a number that is no half of a surrogate pair is read as its character. -/
theorem readText_unicode {n : Nat} {r rest : List Char} (read : readHex4 r = some (n, rest))
    (low : n < 0xD800) (fuel : Nat) (good : Bool) (done : List Char) :
    readText (fuel + 1) good done ('\\' :: 'u' :: r) =
      readText fuel good (Char.ofNat n :: done) rest := by
  have first : (decide (0xD800 ≤ n) && decide (n < 0xDC00)) = false := by
    rw [decide_eq_false (by omega), Bool.false_and]
  have second : (decide (0xDC00 ≤ n) && decide (n < 0xE000)) = false := by
    rw [decide_eq_false (by omega), Bool.false_and]
  rw [readText, if_neg (by decide), if_pos rfl]
  simp only [read, first, second, Bool.false_eq_true, if_false]

/-- A written character is read as itself. -/
theorem readText_escape (c : Char) (fuel : Nat) (good : Bool) (done rest : List Char) :
    readText (fuel + 1) good done (escape c ++ rest) = readText fuel good (c :: done) rest := by
  unfold escape
  split_ifs with quote backslash line carriage tab back form control
  · subst quote; rfl
  · subst backslash; rfl
  · subst line; rfl
  · subst carriage; rfl
  · subst tab; rfl
  · subst back; rfl
  · subst form; rfl
  · have number := readText_unicode (readHex4_control control rest) (by omega) fuel good done
    rw [Char.ofNat_toNat] at number
    exact number
  · show (if c = '"' then _ else if c = '\\' then _ else if c.toNat < 0x20 then _ else _) = _
    rw [if_neg quote, if_neg backslash, if_neg control]
    rfl

/-- A quoted text is read to its closing quote. -/
theorem readText_quoted (cs : List Char) (good : Bool) (done rest : List Char) {fuel : Nat}
    (enough : cs.length < fuel) :
    readText fuel good done (cs.flatMap escape ++ '"' :: rest) =
      some (if good then .text (String.ofList (done.reverse ++ cs)) else .other, rest) := by
  induction cs generalizing fuel done with
  | nil =>
    obtain ⟨fuel, rfl⟩ := Nat.exists_eq_add_one.mpr enough
    rw [List.append_nil]
    rfl
  | cons c cs ih =>
    obtain ⟨fuel, rfl⟩ := Nat.exists_eq_add_one.mpr (Nat.zero_lt_of_lt enough)
    rw [List.flatMap_cons, List.append_assoc, readText_escape,
      ih (c :: done) (Nat.lt_of_succ_lt_succ enough), List.reverse_cons, List.append_assoc]
    rfl

theorem length_le_flatMap_escape (cs : List Char) : cs.length ≤ (cs.flatMap escape).length := by
  induction cs with
  | nil => exact Nat.le_refl 0
  | cons c cs ih =>
    have written : 0 < (escape c).length := by
      unfold escape
      split_ifs <;> exact Nat.zero_lt_succ _
    rw [List.flatMap_cons, List.length_append, List.length_cons]
    omega

/-- A text is read from its quoted form, whose opening quote was read. -/
theorem readText_toList (s : String) (rest : List Char) {body : List Char}
    (quoted : body = s.toList.flatMap escape ++ '"' :: rest) :
    readText (body.length + 1) true [] body = some (.text s, rest) := by
  have size := length_le_flatMap_escape s.toList
  have enough : s.toList.length < body.length + 1 := by
    rw [quoted, List.length_append]
    omega
  rw [quoted] at enough ⊢
  rw [readText_quoted s.toList true [] rest enough]
  simp

/-! ## Numbers -/

/-- A character that a number can go on with behind its digits. -/
def goesOn (c : Char) : Bool := isDigit c || c == '.' || c == 'e' || c == 'E'

/-- No number goes on with a text. -/
def Ends (s : List Char) : Prop := ∀ c ∈ s.head?, goesOn c = false

theorem ends_cons {c : Char} (h : goesOn c = false) (s : List Char) : Ends (c :: s) := by
  intro d first
  cases first
  exact h

theorem goesOn_of_isBlank {c : Char} (blank : isBlank c = true) : goesOn c = false := by
  simp only [isBlank, Bool.or_eq_true, beq_iff_eq] at blank
  rcases blank with ((rfl | rfl) | rfl) | rfl <;> rfl

theorem ends_of_blank {s : List Char} (blank : s.all isBlank = true) : Ends s := by
  intro c first
  exact goesOn_of_isBlank (List.all_eq_true.mp blank c (List.mem_of_mem_head? first))

theorem isBlank_of_isDigit {c : Char} (digit : isDigit c = true) : isBlank c = false := by
  rw [← Bool.not_eq_true]
  intro blank
  have other := goesOn_of_isBlank blank
  simp [goesOn, digit] at other

theorem ne_of_isDigit {c d : Char} (digit : isDigit c = true) (other : isDigit d = false) :
    c ≠ d := by
  rintro rfl
  rw [digit] at other
  cases other

theorem isDigit_of_mem_toDigits {n : Nat} {c : Char} (h : c ∈ Nat.toDigits 10 n) :
    isDigit c = true := Nat.isDigit_of_mem_toDigits (by decide) (by decide) h

theorem ofDigits_toDigits (n : Nat) : ofDigits (Nat.toDigits 10 n) = n := by
  have fold : ofDigits (Nat.toDigits 10 n) = Nat.ofDigitChars 10 (Nat.toDigits 10 n) 0 := by
    simp only [ofDigits, Nat.ofDigitChars_eq_foldl, Nat.mul_comm]
    rfl
  rw [fold, Nat.ofDigitChars_ten_toDigits]

/-- Only zero is written with a zero in front. -/
theorem head?_toDigits {n : Nat} (positive : 0 < n) : (Nat.toDigits 10 n).head? ≠ some '0' := by
  induction n using Nat.strongRecOn with
  | ind n ih =>
    rw [Nat.toDigits_eq_if (by decide)]
    by_cases single : n < 10
    · rw [if_pos single]
      intro first
      have zero := Nat.digitChar_eq_zero.mp (Option.some.inj first)
      omega
    · have front := ih (n / 10) (by omega) (by omega)
      obtain ⟨c, ds, whole⟩ :=
        List.exists_cons_of_ne_nil (Nat.toDigits_ne_nil (n := n / 10) (b := 10))
      rw [whole] at front
      rw [if_neg single, whole]
      exact front

theorem readDigits_append {ds rest : List Char} (digits : ∀ c ∈ ds, isDigit c = true)
    (nonempty : ds ≠ []) (ends : Ends rest) : readDigits (ds ++ rest) = some (ds, rest) := by
  have stop : rest.takeWhile isDigit = [] ∧ rest.dropWhile isDigit = rest := by
    cases rest with
    | nil => exact ⟨rfl, rfl⟩
    | cons c rest =>
      have other := ends c rfl
      simp only [goesOn, Bool.or_eq_false_iff] at other
      simp [other]
  rw [readDigits, List.takeWhile_append_of_pos digits, List.dropWhile_append_of_pos digits,
    stop.1, stop.2, List.append_nil]
  cases ds with
  | nil => exact absurd rfl nonempty
  | cons c ds => rfl

theorem readFraction_of_ends {rest : List Char} (ends : Ends rest) :
    readFraction rest = some (false, rest) := by
  cases rest with
  | nil => rfl
  | cons c rest =>
    have other := ends c rfl
    simp only [goesOn, Bool.or_eq_false_iff, beq_eq_false_iff_ne] at other
    unfold readFraction
    split
    · rename_i point
      cases point
      exact absurd rfl other.1.1.2
    · rfl

theorem readExponent_of_ends {rest : List Char} (ends : Ends rest) :
    readExponent rest = some (false, rest) := by
  cases rest with
  | nil => rfl
  | cons c rest =>
    have other := ends c rfl
    simp only [goesOn, Bool.or_eq_false_iff, beq_eq_false_iff_ne] at other
    have letter : ¬ (c = 'e' || c = 'E') = true := by
      simp [other]
    unfold readExponent
    exact if_neg letter

/-- The digits of a number are read as it, if it has 64 bits with its sign. -/
theorem readNumber_toDigits (negative : Bool) (n : Nat) {rest : List Char} (ends : Ends rest) :
    readNumber negative (Nat.toDigits 10 n ++ rest) = some
      (if negative then if 0 < n && 2 * n ≤ UInt64.size then .integer (-n) else .other
        else if n < UInt64.size then .integer n else .other, rest) := by
  have digits := readDigits_append (fun c => isDigit_of_mem_toDigits (n := n))
    Nat.toDigits_ne_nil ends
  have short :
      ((Nat.toDigits 10 n).length > 1 && (Nat.toDigits 10 n).head? == some '0') = false := by
    by_cases zero : n = 0
    · subst zero
      rfl
    · rw [beq_eq_false_iff_ne.mpr (head?_toDigits (Nat.pos_of_ne_zero zero)), Bool.and_false]
  rw [readNumber, digits]
  simp only [Option.bind_eq_bind, Option.bind_some, short, Bool.false_eq_true, if_false,
    readFraction_of_ends ends, readExponent_of_ends ends, Bool.or_self, ofDigits_toDigits]
  rfl

/-! ## Values -/

/-- A value that the notation can say: nothing that stands for a date or for what is of no use, and
no number of more than 64 bits with its sign. -/
inductive Plain : Value → Prop
  | null : Plain .null
  | bool (b : Bool) : Plain (.bool b)
  | integer (n : Int) (least : -(UInt64.size : Int) ≤ 2 * n) (most : n < UInt64.size) :
      Plain (.integer n)
  | text (s : String) : Plain (.text s)
  | list (vs : List Value) (each : ∀ v ∈ vs, Plain v) : Plain (.list vs)
  | table (es : Entries) (each : ∀ e ∈ es, Plain e.2) : Plain (.table es)

/-! ### Texts of values -/

theorem toList_quoted (s : String) :
    (quoted s).toList = '"' :: (s.toList.flatMap escape ++ ['"']) := by
  simp [quoted]

theorem toList_write_integer (depth : Nat) (n : Int) :
    (write depth (.integer n)).toList =
      if 0 ≤ n then Nat.toDigits 10 n.toNat else '-' :: Nat.toDigits 10 (-n).toNat := by
  rw [write]
  show n.repr.toList = _
  rw [Int.repr_eq_if]
  split_ifs <;> simp [Nat.repr_eq_ofList_toDigits]

theorem toList_write_list (depth : Nat) (v : Value) (vs : List Value) :
    (write depth (.list (v :: vs))).toList =
      '[' :: ((newline (depth + 1)).toList ++ ((write (depth + 1) v).toList ++
        ((writeItems (depth + 1) vs).toList ++ ((newline depth).toList ++ [']'])))) := by
  rw [write]
  simp

theorem toList_writeItems (depth : Nat) (v : Value) (vs : List Value) :
    (writeItems depth (v :: vs)).toList =
      ',' :: ((newline depth).toList ++ ((write depth v).toList ++
        (writeItems depth vs).toList)) := by
  rw [writeItems]
  simp

theorem toList_writeTable (depth : Nat) (key : String) (v : Value) (es : Entries) :
    (writeTable depth ((key, v) :: es)).toList =
      '\x7b' :: ((newline (depth + 1)).toList ++ ((quoted key).toList ++ (':' :: ' ' ::
        ((write (depth + 1) v).toList ++ ((writeEntries (depth + 1) es).toList ++
          ((newline depth).toList ++ ['\x7d'])))))) := by
  rw [writeTable]
  simp

theorem toList_writeEntries (depth : Nat) (key : String) (v : Value) (es : Entries) :
    (writeEntries depth ((key, v) :: es)).toList =
      ',' :: ((newline depth).toList ++ ((quoted key).toList ++ (':' :: ' ' ::
        ((write depth v).toList ++ (writeEntries depth es).toList)))) := by
  rw [writeEntries]
  simp

/-- A number begins with a digit or a sign. -/
theorem exists_toDigits (n : Nat) :
    ∃ c cs, Nat.toDigits 10 n = c :: cs ∧ isDigit c = true := by
  obtain ⟨c, cs, whole⟩ := List.exists_cons_of_ne_nil (Nat.toDigits_ne_nil (n := n) (b := 10))
  refine ⟨c, cs, whole, isDigit_of_mem_toDigits (n := n) ?_⟩
  rw [whole]
  exact List.mem_cons_self

theorem exists_writeTable (depth : Nat) (es : Entries) :
    ∃ cs, (writeTable depth es).toList = '\x7b' :: cs := by
  cases es with
  | nil =>
    rw [writeTable]
    exact ⟨_, rfl⟩
  | cons e es =>
    rw [toList_writeTable]
    exact ⟨_, rfl⟩

/-- A written value begins with a character that is not blank and closes no list. -/
theorem exists_write (depth : Nat) (v : Value) :
    ∃ c cs, (write depth v).toList = c :: cs ∧ isBlank c = false ∧ c ≠ ']' := by
  cases v with
  | null | date | other =>
    rw [write]
    exact ⟨'n', _, rfl, rfl, by decide⟩
  | bool b =>
    rw [write]
    cases b
    · exact ⟨'f', _, rfl, rfl, by decide⟩
    · exact ⟨'t', _, rfl, rfl, by decide⟩
  | integer n =>
    rw [toList_write_integer]
    split_ifs
    · obtain ⟨c, cs, whole, digit⟩ := exists_toDigits n.toNat
      exact ⟨c, cs, whole, isBlank_of_isDigit digit, ne_of_isDigit digit rfl⟩
    · exact ⟨'-', _, rfl, rfl, by decide⟩
  | text s =>
    rw [write, toList_quoted]
    exact ⟨'"', _, rfl, rfl, by decide⟩
  | list vs =>
    cases vs with
    | nil =>
      rw [write]
      exact ⟨'[', _, rfl, rfl, by decide⟩
    | cons v vs =>
      rw [toList_write_list]
      exact ⟨'[', _, rfl, rfl, by decide⟩
  | table es | spread header es =>
    rw [write]
    obtain ⟨cs, whole⟩ := exists_writeTable depth es
    exact ⟨'\x7b', cs, whole, rfl, by decide⟩

/-! ### Reading back -/

/-- A value is read from its text, whatever stands behind it. -/
def ReadBack (v : Value) : Prop :=
  ∀ (depth fuel : Nat) (rest : List Char), (write depth v).toList.length ≤ fuel → Ends rest →
    readValue fuel ((write depth v).toList ++ rest) = some (v, rest)

theorem readValue_digit {c : Char} (digit : isDigit c = true) (fuel : Nat) (s : List Char) :
    readValue (fuel + 1) (c :: s) = readNumber false (c :: s) := by
  rw [readValue, if_neg (ne_of_isDigit digit rfl), if_neg (ne_of_isDigit digit rfl),
    if_neg (ne_of_isDigit digit rfl), if_neg (ne_of_isDigit digit rfl), if_pos digit]

theorem readBack_integer {n : Int} (least : -(UInt64.size : Int) ≤ 2 * n)
    (most : n < UInt64.size) : ReadBack (.integer n) := by
  intro depth fuel rest enough ends
  rw [toList_write_integer] at enough ⊢
  by_cases natural : 0 ≤ n
  · rw [if_pos natural] at enough ⊢
    obtain ⟨c, cs, whole, digit⟩ := exists_toDigits n.toNat
    rw [whole] at enough
    obtain ⟨fuel, rfl⟩ := Nat.exists_eq_add_one.mpr (Nat.zero_lt_of_lt enough)
    have number := readNumber_toDigits false n.toNat ends
    have small : n.toNat < UInt64.size := by omega
    rw [if_neg Bool.false_ne_true, if_pos small, whole, Int.toNat_of_nonneg natural] at number
    rw [whole]
    exact (readValue_digit digit fuel (cs ++ rest)).trans number
  · rw [if_neg natural] at enough ⊢
    obtain ⟨fuel, rfl⟩ := Nat.exists_eq_add_one.mpr (Nat.zero_lt_of_lt enough)
    have number := readNumber_toDigits true (-n).toNat ends
    have small : (0 < (-n).toNat && 2 * (-n).toNat ≤ UInt64.size) = true := by
      rw [Bool.and_eq_true, decide_eq_true_iff, decide_eq_true_iff]
      omega
    have back : -((-n).toNat : Int) = n := by omega
    rw [if_pos rfl, if_pos small, back] at number
    exact number

theorem readBack_text (s : String) : ReadBack (.text s) := by
  intro depth fuel rest enough ends
  rw [write, toList_quoted] at enough ⊢
  obtain ⟨fuel, rfl⟩ := Nat.exists_eq_add_one.mpr (Nat.zero_lt_of_lt enough)
  exact readText_toList s rest (List.append_assoc _ _ _)

theorem ends_comma (s : List Char) : Ends (',' :: s) := ends_cons rfl s

/-- Behind blanks a value begins at once. -/
theorem skip_write {blanks : List Char} (blank : blanks.all isBlank = true) (depth : Nat)
    (v : Value) (s : List Char) :
    skip (blanks ++ ((write depth v).toList ++ s)) = (write depth v).toList ++ s := by
  obtain ⟨c, cs, whole, visible, -⟩ := exists_write depth v
  rw [skip_append blank, whole]
  exact skip_cons visible (cs ++ s)

theorem skip_newline_quoted (depth : Nat) (key : String) (s : List Char) :
    skip ((newline depth).toList ++ ((quoted key).toList ++ s)) = (quoted key).toList ++ s := by
  rw [skip_append (isBlank_newline depth), toList_quoted]
  exact skip_cons rfl _

theorem skip_newline_cons {c : Char} (visible : isBlank c = false) (depth : Nat) (s : List Char) :
    skip ((newline depth).toList ++ c :: s) = c :: s := by
  rw [skip_append (isBlank_newline depth), skip_cons visible]

theorem ends_newline (depth : Nat) (s : List Char) : Ends ((newline depth).toList ++ s) := by
  rw [toList_newline]
  exact ends_cons rfl _

/-! #### Lists -/

theorem readValue_list {c : Char} {s r : List Char} (begun : skip s = c :: r) (more : c ≠ ']')
    (fuel : Nat) :
    readValue (fuel + 1) ('[' :: s) =
      (readItems fuel (c :: r)).map fun (vs, r) => (.list vs, r) := by
  rw [readValue, begun, if_neg (by decide), if_pos rfl]
  split
  · rename_i closed
    cases closed
    exact absurd rfl more
  · rfl

theorem readItems_last {fuel : Nat} {s r rest : List Char} {v : Value}
    (first : readValue fuel s = some (v, r)) (closed : skip r = ']' :: rest) :
    readItems (fuel + 1) s = some ([v], rest) := by
  rw [readItems, first]
  simp only [Option.bind_eq_bind, Option.bind_some, closed]
  rfl

theorem readItems_more {fuel : Nat} {s r r' rest : List Char} {v : Value} {vs : List Value}
    (first : readValue fuel s = some (v, r)) (comma : skip r = ',' :: r')
    (others : readItems fuel (skip r') = some (vs, rest)) :
    readItems (fuel + 1) s = some (v :: vs, rest) := by
  rw [readItems, first]
  simp only [Option.bind_eq_bind, Option.bind_some, comma, others]
  rfl

/-- The items of a list are read from their texts, from the first on. -/
theorem readItems_write {v : Value} {vs : List Value} (here : ReadBack v)
    (each : ∀ u ∈ vs, ReadBack u) (depth outer : Nat) (rest : List Char) {fuel : Nat}
    (enough : (write depth v).toList.length + (writeItems depth vs).toList.length < fuel) :
    readItems fuel ((write depth v).toList ++ ((writeItems depth vs).toList ++
      ((newline outer).toList ++ ']' :: rest))) = some (v :: vs, rest) := by
  induction vs generalizing v fuel with
  | nil =>
    obtain ⟨fuel, rfl⟩ := Nat.exists_eq_add_one.mpr (Nat.zero_lt_of_lt enough)
    have first := here depth fuel _ (by omega) (ends_newline outer (']' :: rest))
    exact readItems_last first (skip_newline_cons rfl outer rest)
  | cons u us ih =>
    obtain ⟨fuel, rfl⟩ := Nat.exists_eq_add_one.mpr (Nat.zero_lt_of_lt enough)
    simp only [toList_writeItems, List.cons_append, List.append_assoc, List.length_cons,
      List.length_append] at enough ⊢
    rw [List.forall_mem_cons] at each
    have room : (write depth u).toList.length + (writeItems depth us).toList.length < fuel := by
      omega
    refine readItems_more (here depth fuel _ (by omega) (ends_comma _)) (skip_cons rfl _) ?_
    rw [skip_write (isBlank_newline depth)]
    exact ih each.1 each.2 room

/-! #### Tables -/

theorem readValue_table {s r : List Char} (begun : skip s = '"' :: r) (fuel : Nat) :
    readValue (fuel + 1) ('\x7b' :: s) = readMembers fuel ('"' :: r) := by
  rw [readValue, begun, if_neg (by decide), if_neg (by decide), if_pos rfl]
  rfl

theorem readMembers_last {fuel : Nat} {key : String} {s t r rest : List Char} {v : Value}
    (begun : skip t = s) (first : readValue fuel s = some (v, r))
    (closed : skip r = '\x7d' :: rest) :
    readMembers (fuel + 1) ((quoted key).toList ++ ':' :: t) = some (.table [(key, v)], rest) := by
  rw [toList_quoted, List.cons_append, List.append_assoc, List.singleton_append, readMembers,
    readText_toList key (':' :: t) rfl]
  have colon : skip (':' :: t) = ':' :: t := skip_cons rfl t
  simp only [Option.bind_eq_bind, Option.bind_some, colon, begun, first, closed]
  rfl

theorem readMembers_more {fuel : Nat} {key : String} {s t r r' rest : List Char} {v : Value}
    {es : Entries} (begun : skip t = s) (first : readValue fuel s = some (v, r))
    (comma : skip r = ',' :: r') (others : readMembers fuel (skip r') = some (.table es, rest)) :
    readMembers (fuel + 1) ((quoted key).toList ++ ':' :: t) =
      some (.table ((key, v) :: es), rest) := by
  rw [toList_quoted, List.cons_append, List.append_assoc, List.singleton_append, readMembers,
    readText_toList key (':' :: t) rfl]
  have colon : skip (':' :: t) = ':' :: t := skip_cons rfl t
  simp only [Option.bind_eq_bind, Option.bind_some, colon, begun, first, comma, others]
  rfl

/-- The entries of a table are read from their texts, from the first on. -/
theorem readMembers_write (key : String) {v : Value} {es : Entries} (here : ReadBack v)
    (each : ∀ e ∈ es, ReadBack e.2) (depth outer : Nat) (rest : List Char) {fuel : Nat}
    (enough : (write depth v).toList.length + (writeEntries depth es).toList.length < fuel) :
    readMembers fuel ((quoted key).toList ++ (':' :: ' ' :: ((write depth v).toList ++
      ((writeEntries depth es).toList ++ ((newline outer).toList ++ '\x7d' :: rest))))) =
        some (.table ((key, v) :: es), rest) := by
  induction es generalizing key v fuel with
  | nil =>
    obtain ⟨fuel, rfl⟩ := Nat.exists_eq_add_one.mpr (Nat.zero_lt_of_lt enough)
    have first := here depth fuel _ (by omega) (ends_newline outer ('\x7d' :: rest))
    have closed := @skip_newline_cons '\x7d' rfl outer rest
    exact readMembers_last (@skip_write [' '] rfl depth v _) first closed
  | cons e es ih =>
    obtain ⟨fuel, rfl⟩ := Nat.exists_eq_add_one.mpr (Nat.zero_lt_of_lt enough)
    obtain ⟨key', u⟩ := e
    simp only [toList_writeEntries, List.cons_append, List.append_assoc, List.length_cons,
      List.length_append] at enough ⊢
    rw [List.forall_mem_cons] at each
    have room : (write depth u).toList.length + (writeEntries depth es).toList.length < fuel := by
      omega
    refine readMembers_more (@skip_write [' '] rfl depth v _)
      (here depth fuel _ (by omega) (ends_comma _)) (skip_cons rfl _) ?_
    rw [skip_newline_quoted]
    exact ih key' each.1 each.2 room

/-! ### Plain values -/

theorem afterWord_append (word : String) (rest : List Char) :
    afterWord word (word.toList ++ rest) = some rest := by
  simp [afterWord]

theorem readBack_of_plain {v : Value} (plain : Plain v) : ReadBack v := by
  induction plain with
  | null =>
    intro depth fuel rest enough ends
    rw [write] at enough ⊢
    obtain ⟨fuel, rfl⟩ := Nat.exists_eq_add_one.mpr (Nat.zero_lt_of_lt enough)
    exact congrArg (Option.map _) (afterWord_append "ull" rest)
  | bool b =>
    intro depth fuel rest enough ends
    cases b
    · rw [write] at enough ⊢
      obtain ⟨fuel, rfl⟩ := Nat.exists_eq_add_one.mpr (Nat.zero_lt_of_lt enough)
      exact congrArg (Option.map _) (afterWord_append "alse" rest)
    · rw [write] at enough ⊢
      obtain ⟨fuel, rfl⟩ := Nat.exists_eq_add_one.mpr (Nat.zero_lt_of_lt enough)
      exact congrArg (Option.map _) (afterWord_append "rue" rest)
  | integer n least most => exact readBack_integer least most
  | text s => exact readBack_text s
  | list vs _ each =>
    intro depth fuel rest enough ends
    cases vs with
    | nil =>
      rw [write] at enough ⊢
      obtain ⟨fuel, rfl⟩ := Nat.exists_eq_add_one.mpr (Nat.zero_lt_of_lt enough)
      rfl
    | cons v vs =>
      simp only [toList_write_list, List.cons_append, List.append_assoc, List.length_cons,
        List.length_append, List.nil_append] at enough ⊢
      obtain ⟨fuel, rfl⟩ := Nat.exists_eq_add_one.mpr (Nat.zero_lt_of_lt enough)
      rw [List.forall_mem_cons] at each
      have room : (write (depth + 1) v).toList.length +
          (writeItems (depth + 1) vs).toList.length < fuel := by omega
      have items := readItems_write each.1 each.2 (depth + 1) depth rest room
      have begun := skip_write (isBlank_newline (depth + 1)) (depth + 1) v
      obtain ⟨c, cs, whole, -, more⟩ := exists_write (depth + 1) v
      rw [whole] at begun items ⊢
      rw [readValue_list (begun _) more]
      exact congrArg (Option.map _) items
  | table es _ each =>
    intro depth fuel rest enough ends
    cases es with
    | nil =>
      rw [write, writeTable] at enough ⊢
      obtain ⟨fuel, rfl⟩ := Nat.exists_eq_add_one.mpr (Nat.zero_lt_of_lt enough)
      rfl
    | cons e es =>
      obtain ⟨key, v⟩ := e
      rw [write] at enough ⊢
      simp only [toList_writeTable, List.cons_append, List.append_assoc, List.length_cons,
        List.length_append, List.nil_append] at enough ⊢
      obtain ⟨fuel, rfl⟩ := Nat.exists_eq_add_one.mpr (Nat.zero_lt_of_lt enough)
      rw [List.forall_mem_cons] at each
      have room : (write (depth + 1) v).toList.length +
          (writeEntries (depth + 1) es).toList.length < fuel := by omega
      have members := readMembers_write key each.1 each.2 (depth + 1) depth rest room
      have begun := skip_newline_quoted (depth + 1) key
      rw [toList_quoted] at begun members ⊢
      exact (readValue_table (begun _) fuel).trans members

/-- A plain value is read from its text, with blanks round it. -/
theorem read?_write {v : Value} (plain : Plain v) (depth : Nat) (before after : String)
    (blankBefore : before.toList.all isBlank = true)
    (blankAfter : after.toList.all isBlank = true) :
    read? (before ++ write depth v ++ after) = some v := by
  have whole : (before ++ write depth v ++ after).toList =
      before.toList ++ ((write depth v).toList ++ after.toList) := by
    rw [String.toList_append, String.toList_append, List.append_assoc]
  have room : (write depth v).toList.length ≤
      2 * (before ++ write depth v ++ after).toList.length + 2 := by
    rw [whole, List.length_append, List.length_append]
    omega
  have back := readBack_of_plain plain depth _ _ room (ends_of_blank blankAfter)
  have done : skip after.toList = [] := by
    have gone := skip_append blankAfter []
    rw [List.append_nil] at gone
    exact gone
  rw [← skip_write blankBefore, ← whole] at back
  simp only [read?, back, done, List.isEmpty_nil, if_true]

end MoveWallet.Document.Json
