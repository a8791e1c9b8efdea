/-
# MoveWallet.Proofs.Text.Utf8 — text and its bytes determine each other

`Spells b tail v` says that byte `b` followed by `tail` is the form of the character numbered `v`.
Both the writer and the reader are held to it: `spells_encodeChar` and `encodeChar_of_spells` say
that writing gives exactly this form, `readPiece_of_spells` and `spells_of_readPiece` that a piece
is read as a character exactly where it stands.  So `decode_bytes` reads back every text, and
`bytes_of_decode` says that no other bytes are read as that text.
-/
import Mathlib.Tactic.SplitIfs
import MoveWallet.Proofs.Text.Reading
import MoveWallet.Text.Utf8

namespace MoveWallet.Text.Utf8

set_option autoImplicit false

/-! ## The form of a character -/

/-- The bits in the first two bytes of a character, by the number of bytes that follow the first.
No shorter form could hold them, and the surrogates leave a gap. -/
def Opening (following w : Nat) : Prop :=
  match following with
  | 1 => 0x80 ≤ w ∧ w < 0x800
  | 2 => 0x20 ≤ w ∧ w < 0x400 ∧ ¬(0x360 ≤ w ∧ w < 0x380)
  | 3 => 0x10 ≤ w ∧ w < 0x110
  | _ => False

/-- A lead byte less the bits that it gives. -/
def leadBase (following : Nat) : Nat :=
  match following with
  | 1 => 0xC0
  | 2 => 0xE0
  | _ => 0xF0

/-- Six more bits. -/
def pushTail (v : Nat) (t : UInt8) : Nat := v * 64 + (t.toNat - 0x80)

theorem pushTail_eq (v : Nat) (t : UInt8) : pushTail v t = v * 64 + (t.toNat - 0x80) := rfl

/-- Byte `b` and the bytes `tail` after it are the form of the character numbered `v`. -/
inductive Spells (b : UInt8) : List UInt8 → Nat → Prop where
  | one {v : Nat} (small : v < 0x80) (value : b.toNat = v) : Spells b [] v
  | more {c : UInt8} {tail : List UInt8} {v w : Nat} (opening : Opening (tail.length + 1) w)
      (first : b.toNat = leadBase (tail.length + 1) + w / 64) (second : c.toNat = 0x80 + w % 64)
      (others : ∀ t ∈ tail, isTail t = true) (value : tail.foldl pushTail w = v) :
      Spells b (c :: tail) v

theorem Opening.length_le {n w : Nat} (h : Opening n w) : n = 1 ∨ n = 2 ∨ n = 3 := by
  match n, h with
  | 1, _ => exact .inl rfl
  | 2, _ => exact .inr (.inl rfl)
  | 3, _ => exact .inr (.inr rfl)

/-! ## Writing -/

theorem toNat_val_ofNat {v : Nat} (h : v.isValidChar) : (Char.ofNat v).val.toNat = v := by
  rw [Char.ofNat, dif_pos h]
  rfl

theorem ofNat_eq_of_toNat {b : UInt8} {n : Nat} (h : b.toNat = n) : UInt8.ofNat n = b := by
  rw [← h, UInt8.ofNat_toNat]

theorem isTail_iff {b : UInt8} : isTail b = true ↔ 0x80 ≤ b.toNat ∧ b.toNat ≤ 0xBF := by
  simp only [isTail, Bool.and_eq_true, decide_eq_true_eq, UInt8.le_iff_toNat_le,
    UInt8.reduceToNat]

theorem isTail_ofNat (n : Nat) : isTail (UInt8.ofNat (n % 64 + 0x80)) = true := by
  rw [isTail_iff, UInt8.toNat_ofNat']
  omega

theorem pushTail_ofNat (v n : Nat) :
    pushTail v (UInt8.ofNat (n % 64 + 0x80)) = v * 64 + n % 64 := by
  rw [pushTail_eq, UInt8.toNat_ofNat']
  omega

/-- Every character is written in its form. -/
theorem spells_encodeChar (c : Char) :
    ∃ b tail, String.utf8EncodeChar c = b :: tail ∧ Spells b tail c.val.toNat := by
  have valid := c.valid
  simp only [UInt32.isValidChar, Nat.isValidChar] at valid
  simp only [String.utf8EncodeChar]
  generalize c.val.toNat = v at valid
  split_ifs with one two three
  · refine ⟨_, _, rfl, .one (by omega) ?_⟩
    rw [UInt8.toNat_ofNat']
    omega
  · refine ⟨_, _, rfl, .more (w := v) ?_ ?_ ?_ (by simp) rfl⟩
    · simp only [List.length_nil, Opening]; omega
    · simp only [List.length_nil, leadBase, UInt8.toNat_ofNat']; omega
    · rw [UInt8.toNat_ofNat']; omega
  · refine ⟨_, _, rfl, .more (w := v / 64) ?_ ?_ ?_ ?_ ?_⟩
    · simp only [List.length_cons, List.length_nil, Opening]; omega
    · simp only [List.length_cons, List.length_nil, leadBase, UInt8.toNat_ofNat']; omega
    · rw [UInt8.toNat_ofNat']; omega
    · rw [List.forall_mem_singleton]
      exact isTail_ofNat v
    · rw [List.foldl_cons, pushTail_ofNat, List.foldl_nil]; omega
  · refine ⟨_, _, rfl, .more (w := v / 4096) ?_ ?_ ?_ ?_ ?_⟩
    · simp only [List.length_cons, List.length_nil, Opening]; omega
    · simp only [List.length_cons, List.length_nil, leadBase, UInt8.toNat_ofNat']; omega
    · rw [UInt8.toNat_ofNat']; omega
    · rw [List.forall_mem_cons, List.forall_mem_singleton]
      exact ⟨isTail_ofNat (v / 64), isTail_ofNat v⟩
    · rw [List.foldl_cons, pushTail_ofNat, List.foldl_cons, pushTail_ofNat, List.foldl_nil]
      omega

theorem encodeChar_ofNat {v : Nat} (h : v.isValidChar) :
    String.utf8EncodeChar (Char.ofNat v) =
      if v ≤ 0x7F then [UInt8.ofNat v]
      else if v ≤ 0x7FF then [UInt8.ofNat (v / 64 % 0x20 + 0xC0), UInt8.ofNat (v % 0x40 + 0x80)]
      else if v ≤ 0xFFFF then
        [UInt8.ofNat (v / 4096 % 0x10 + 0xE0), UInt8.ofNat (v / 64 % 0x40 + 0x80),
          UInt8.ofNat (v % 0x40 + 0x80)]
      else
        [UInt8.ofNat (v / 262144 % 0x08 + 0xF0), UInt8.ofNat (v / 4096 % 0x40 + 0x80),
          UInt8.ofNat (v / 64 % 0x40 + 0x80), UInt8.ofNat (v % 0x40 + 0x80)] := by
  have number := toNat_val_ofNat h
  simp only [String.utf8EncodeChar, number]

/-- A form is that of the character with its number. -/
theorem encodeChar_of_spells {b : UInt8} {tail : List UInt8} {v : Nat} (h : Spells b tail v) :
    String.utf8EncodeChar (Char.ofNat v) = b :: tail := by
  cases h with
  | one small value =>
    rw [encodeChar_ofNat (.inl (by omega)), if_pos (by omega), ofNat_eq_of_toNat value]
  | @more c tail v w opening first second others value =>
    rcases tail with _ | ⟨t, _ | ⟨u, _ | ⟨_, _⟩⟩⟩
    · simp only [List.length_nil, Opening, leadBase, List.foldl_nil] at opening first value
      rw [encodeChar_ofNat (.inl (by omega)), if_neg (by omega), if_pos (by omega),
        ofNat_eq_of_toNat (b := b) (by omega), ofNat_eq_of_toNat (b := c) (by omega)]
    · have ht := isTail_iff.mp (others t (by simp))
      simp only [List.length_cons, List.length_nil, Opening, leadBase, List.foldl_cons,
        List.foldl_nil] at opening first value
      rw [pushTail_eq] at value
      rw [encodeChar_ofNat (by unfold Nat.isValidChar; omega), if_neg (by omega),
        if_neg (by omega), if_pos (by omega), ofNat_eq_of_toNat (b := b) (by omega),
        ofNat_eq_of_toNat (b := c) (by omega), ofNat_eq_of_toNat (b := t) (by omega)]
    · have ht := isTail_iff.mp (others t (by simp))
      have hu := isTail_iff.mp (others u (by simp))
      simp only [List.length_cons, List.length_nil, Opening, leadBase, List.foldl_cons,
        List.foldl_nil] at opening first value
      rw [pushTail_eq, pushTail_eq] at value
      rw [encodeChar_ofNat (.inr (by omega)), if_neg (by omega), if_neg (by omega),
        if_neg (by omega), ofNat_eq_of_toNat (b := b) (by omega),
        ofNat_eq_of_toNat (b := c) (by omega), ofNat_eq_of_toNat (b := t) (by omega),
        ofNat_eq_of_toNat (b := u) (by omega)]
    · simp only [List.length_cons, Opening] at opening

/-! ## Reading a piece -/

theorem lead?_eq (b : UInt8) :
    lead? b =
      if 0xC2 ≤ b.toNat ∧ b.toNat ≤ 0xDF then some ⟨1, 0x80, 0xBF, b.toNat - 0xC0⟩
      else if b.toNat = 0xE0 then some ⟨2, 0xA0, 0xBF, 0⟩
      else if b.toNat = 0xED then some ⟨2, 0x80, 0x9F, 0xD⟩
      else if 0xE1 ≤ b.toNat ∧ b.toNat ≤ 0xEF then some ⟨2, 0x80, 0xBF, b.toNat - 0xE0⟩
      else if b.toNat = 0xF0 then some ⟨3, 0x90, 0xBF, 0⟩
      else if 0xF1 ≤ b.toNat ∧ b.toNat ≤ 0xF3 then some ⟨3, 0x80, 0xBF, b.toNat - 0xF0⟩
      else if b.toNat = 0xF4 then some ⟨3, 0x80, 0x8F, 4⟩
      else none := by
  simp only [lead?, Bool.and_eq_true, decide_eq_true_eq, beq_iff_eq, UInt8.le_iff_toNat_le,
    ← UInt8.toNat_inj, UInt8.reduceToNat]

/-- The bits of a lead byte and an allowed byte after it open a character. -/
theorem opening_of_lead {b c : UInt8} {l : Lead} (h : lead? b = some l) (low : l.least ≤ c)
    (high : c ≤ l.greatest) :
    Opening l.following (pushTail l.bits c) ∧
      b.toNat = leadBase l.following + pushTail l.bits c / 64 ∧
      c.toNat = 0x80 + pushTail l.bits c % 64 := by
  rw [pushTail_eq]
  rw [UInt8.le_iff_toNat_le] at low high
  rw [lead?_eq] at h
  split_ifs at h <;> cases h <;> simp only [Opening, leadBase, UInt8.reduceToNat] at low high ⊢ <;>
    omega

/-- The first two bytes of a character are a lead byte and a byte that it allows. -/
theorem lead_of_opening {following w : Nat} {b c : UInt8} (h : Opening following w)
    (first : b.toNat = leadBase following + w / 64) (second : c.toNat = 0x80 + w % 64) :
    ∃ l, lead? b = some l ∧ l.least ≤ c ∧ c ≤ l.greatest ∧ l.following = following ∧
      pushTail l.bits c = w := by
  simp only [pushTail_eq, lead?_eq, UInt8.le_iff_toNat_le]
  rcases h.length_le with rfl | rfl | rfl <;> simp only [Opening, leadBase] at h first <;>
    split_ifs <;> first
    | omega
    | exact ⟨_, rfl, by simp only [UInt8.reduceToNat]; omega,
        by simp only [UInt8.reduceToNat]; omega, rfl, by simp only; omega⟩

theorem readTail_append {tail : List UInt8} (h : ∀ t ∈ tail, isTail t = true) (v taken : Nat)
    (rest : List UInt8) :
    readTail v taken tail.length (tail ++ rest) =
      (some (Char.ofNat (tail.foldl pushTail v)), taken + tail.length) := by
  induction tail generalizing v taken with
  | nil => rfl
  | cons t tail ih =>
    rw [List.forall_mem_cons] at h
    rw [List.length_cons, List.cons_append, readTail, if_pos h.1, List.foldl_cons]
    rw [← pushTail_eq, ih h.2, Nat.add_right_comm, Nat.add_assoc]

theorem readTail_eq_some {v taken n t : Nat} {rest : List UInt8} {c : Char}
    (h : readTail v taken n rest = (some c, t)) :
    ∃ tail r, rest = tail ++ r ∧ tail.length = n ∧ t = taken + n ∧
      (∀ b ∈ tail, isTail b = true) ∧ c = Char.ofNat (tail.foldl pushTail v) := by
  induction n generalizing v taken rest with
  | zero =>
    cases h
    exact ⟨[], rest, rfl, rfl, rfl, by simp, rfl⟩
  | succ n ih =>
    cases rest with
    | nil => cases h
    | cons b rest =>
      rw [readTail] at h
      split at h
      · rename_i hb
        rw [← pushTail_eq] at h
        obtain ⟨tail, r, rfl, rfl, rfl, others, rfl⟩ := ih h
        exact ⟨b :: tail, r, rfl, rfl, by omega, List.forall_mem_cons.mpr ⟨hb, others⟩,
          by rw [List.foldl_cons]⟩
      · cases h

/-- A character is read where its form stands, whatever follows. -/
theorem readPiece_of_spells {b : UInt8} {tail : List UInt8} {v : Nat} (h : Spells b tail v)
    (rest : List UInt8) :
    readPiece b (tail ++ rest) = (some (Char.ofNat v), tail.length) := by
  cases h with
  | one small value =>
    subst value
    have ascii : b < 0x80 := UInt8.lt_iff_toNat_lt.mpr small
    unfold readPiece
    rw [if_pos ascii]
    rfl
  | @more c tail v w opening first second others value =>
    have multiple : ¬ b < 0x80 := by
      rw [UInt8.lt_iff_toNat_lt, show (0x80 : UInt8).toNat = 0x80 from rfl]
      rcases opening.length_le with e | e | e <;> rw [e] at first <;>
        simp only [leadBase] at first <;> omega
    obtain ⟨l, lead, low, high, following, bits⟩ := lead_of_opening opening first second
    rw [pushTail_eq] at bits
    unfold readPiece
    rw [if_neg multiple, lead, List.cons_append]
    simp only [low, high, decide_true, Bool.and_self, if_true]
    rw [bits, following, Nat.add_sub_cancel, readTail_append others, value, List.length_cons,
      Nat.add_comm]

/-- Only the form of a character is read as that character. -/
theorem spells_of_readPiece {b : UInt8} {rest : List UInt8} {c : Char} {n : Nat}
    (h : readPiece b rest = (some c, n)) :
    ∃ tail r v, rest = tail ++ r ∧ tail.length = n ∧ c = Char.ofNat v ∧ Spells b tail v := by
  unfold readPiece at h
  split at h
  · rename_i ascii
    cases h
    exact ⟨[], rest, b.toNat, rfl, rfl, rfl, .one (UInt8.lt_iff_toNat_lt.mp ascii) rfl⟩
  · split at h
    · cases h
    · cases h
    · rename_i l c' rest' lead
      split at h
      · rename_i allowed
        simp only [Bool.and_eq_true, decide_eq_true_eq] at allowed
        obtain ⟨opening, first, second⟩ := opening_of_lead lead allowed.1 allowed.2
        obtain ⟨tail, r, rfl, length, rfl, others, rfl⟩ := readTail_eq_some h
        have following : l.following = tail.length + 1 := by
          rcases opening.length_le with e | e | e <;> omega
        rw [following] at opening first
        exact ⟨c' :: tail, r, _, rfl, by rw [List.length_cons]; omega, rfl,
          .more opening first second others rfl⟩
      · cases h

/-! ## Texts -/

theorem piecesAfter_append (tail rest : List UInt8) :
    piecesAfter tail.length (tail ++ rest) = piecesAfter 0 rest := by
  induction tail with
  | nil => rfl
  | cons t tail ih => exact ih

theorem pieces_encode_append (s : List Char) (rest : List UInt8) :
    pieces (encode s ++ rest) = s.map some ++ pieces rest := by
  induction s with
  | nil => rfl
  | cons c s ih =>
    obtain ⟨b, tail, form, spelled⟩ := spells_encodeChar c
    have number : Char.ofNat c.val.toNat = c := Char.ofNat_toNat c
    have piece := readPiece_of_spells spelled (encode s ++ rest)
    rw [number] at piece
    have split : encode (c :: s) ++ rest = b :: (tail ++ (encode s ++ rest)) := by
      rw [encode, List.flatMap_cons, form, List.append_assoc]
      rfl
    rw [split, pieces, piecesAfter, piece, piecesAfter_append]
    exact congrArg (some c :: ·) ih

theorem encode_of_pieces {bs : List UInt8} {s : List Char} (h : pieces bs = s.map some) :
    encode s = bs := by
  induction s generalizing bs with
  | nil =>
    cases bs with
    | nil => rfl
    | cons b bs => simp [pieces, piecesAfter] at h
  | cons c s ih =>
    cases bs with
    | nil => simp [pieces, piecesAfter] at h
    | cons b bs =>
      rw [pieces, piecesAfter, List.map_cons, List.cons.injEq] at h
      obtain ⟨tail, r, v, rfl, length, rfl, spelled⟩ :=
        spells_of_readPiece (Prod.ext h.1 rfl : readPiece b bs = (some c, (readPiece b bs).2))
      have later := h.2
      rw [← length, piecesAfter_append] at later
      rw [encode, List.flatMap_cons, encodeChar_of_spells spelled, List.cons_append]
      exact congrArg (b :: tail ++ ·) (ih later)

theorem mapM_id_map_some {α : Type} (as : List α) : (as.map some).mapM id = some as :=
  Reading.mapM_map_eq_some fun _ _ => rfl

theorem eq_map_some_of_mapM_id {α : Type} {os : List (Option α)} {as : List α}
    (h : os.mapM id = some as) : os = as.map some := by
  have same := Reading.map_eq_of_mapM (f := some) (g := id) (fun _ _ h => h.symm) h
  rw [same, List.map_id]

/-- Every text is read back from its bytes. -/
@[simp] theorem decode_bytes (s : String) : decode (bytes s) = some s := by
  have whole := pieces_encode_append s.toList []
  rw [List.append_nil, show pieces [] = [] from rfl, List.append_nil] at whole
  rw [decode, bytes, whole, mapM_id_map_some, Option.map_some, String.ofList_toList]

/-- Only the bytes of a text are read as that text. -/
theorem bytes_of_decode {bs : List UInt8} {s : String} (h : decode bs = some s) : bytes s = bs := by
  rw [decode, Option.map_eq_some_iff] at h
  obtain ⟨cs, hcs, rfl⟩ := h
  rw [bytes, String.toList_ofList]
  exact encode_of_pieces (eq_map_some_of_mapM_id hcs)

theorem bytes_injective {s t : String} (h : bytes s = bytes t) : s = t := by
  have read := decode_bytes s
  rw [h, decode_bytes] at read
  exact (Option.some.inj read).symm

/-! ## ASCII text -/

/-- What holds of the characters with numbers below 0x80, one after another, holds of ASCII. -/
theorem forall_ascii {P : Char → Prop} (table : ∀ n < 0x80, P (Char.ofNat n)) :
    ∀ c : Char, c.toNat < 0x80 → P c := by
  intro c ascii
  have row := table c.toNat ascii
  rwa [Char.ofNat_toNat] at row

/-- The character that a byte below 0x80 stands for. -/
def asciiChar (b : UInt8) : Char := Char.ofNat b.toNat

theorem toNat_asciiChar_lt {b : UInt8} (h : b < 0x80) : (asciiChar b).toNat < 0x80 := by
  have small : b.toNat < 0x80 := UInt8.lt_iff_toNat_lt.mp h
  have number : (asciiChar b).toNat = b.toNat := toNat_val_ofNat (Or.inl (by omega))
  rw [number]
  exact small

theorem encodeChar_asciiChar {b : UInt8} (h : b < 0x80) :
    String.utf8EncodeChar (asciiChar b) = [b] :=
  encodeChar_of_spells (.one (UInt8.lt_iff_toNat_lt.mp h) rfl)

theorem encode_map_asciiChar {bs : List UInt8} (h : ∀ b ∈ bs, b < 0x80) :
    encode (bs.map asciiChar) = bs := by
  induction bs with
  | nil => rfl
  | cons b bs ih =>
    have first := encodeChar_asciiChar (h b List.mem_cons_self)
    have others := ih fun c member => h c (List.mem_cons_of_mem b member)
    rw [encode] at others
    rw [List.map_cons, encode, List.flatMap_cons, first, others]
    rfl

/-- ASCII text has as many bytes as characters. -/
theorem length_encode_of_ascii {s : List Char} (h : ∀ c ∈ s, c.toNat < 0x80) :
    (encode s).length = s.length := by
  induction s with
  | nil => rfl
  | cons c s ih =>
    have one : (String.utf8EncodeChar c).length = 1 := by
      have small : c.val.toNat ≤ 127 := Nat.le_of_lt_succ (h c List.mem_cons_self)
      simp only [String.utf8EncodeChar, small, if_true, List.length_singleton]
    have others := ih fun d member => h d (List.mem_cons_of_mem c member)
    rw [encode] at others
    rw [encode, List.flatMap_cons, List.length_append, one, others, List.length_cons, Nat.add_comm]

/-- ASCII text has the numbers of its characters as its bytes. -/
theorem encode_of_ascii {s : List Char} (h : ∀ c ∈ s, c.toNat < 0x80) :
    encode s = s.map fun c => UInt8.ofNat c.toNat := by
  have small : ∀ c ∈ s, (UInt8.ofNat c.toNat).toNat = c.toNat := fun c member =>
    UInt8.toNat_ofNat_of_lt' (Nat.lt_trans (h c member) (by decide))
  have characters : (s.map fun c => UInt8.ofNat c.toNat).map asciiChar = s := by
    rw [List.map_map]
    refine (List.map_congr_left ?_).trans (List.map_id s)
    intro c member
    rw [Function.comp_apply, asciiChar, small c member, Char.ofNat_toNat]
    rfl
  have whole : encode ((s.map fun c => UInt8.ofNat c.toNat).map asciiChar) =
      s.map fun c => UInt8.ofNat c.toNat := by
    apply encode_map_asciiChar
    intro b member
    obtain ⟨c, among, rfl⟩ := List.mem_map.mp member
    rw [UInt8.lt_iff_toNat_lt, small c among]
    exact h c among
  rw [characters] at whole
  exact whole

/-- Text whose bytes are ASCII has these as its characters. -/
theorem toList_of_ascii {s : String} (h : ∀ b ∈ bytes s, b < 0x80) :
    s.toList = (bytes s).map asciiChar := by
  have same : bytes (String.ofList ((bytes s).map asciiChar)) = bytes s := by
    rw [bytes, String.toList_ofList, encode_map_asciiChar h]
  have characters := congrArg String.toList (bytes_injective same)
  rw [String.toList_ofList] at characters
  exact characters.symm

end MoveWallet.Text.Utf8
