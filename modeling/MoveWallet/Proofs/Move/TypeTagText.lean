/-
# MoveWallet.Proofs.Move.TypeTagText — a type is read from the text it is written as

Addresses, names and the words of primitive types are words: letters, digits and underscores.  So a
colon in the text of a type belongs to a path, and an angle bracket or a comma to a list of
parameters, and wherever the parser looks for one of these it finds the one that was written.  A
reader with some levels left reads the text of every type whose weight is below that number
(`parseTypeTag_render`), which is the number up to which the reader of bytes goes.
-/
import MoveWallet.Proofs.Account.AddressText
import MoveWallet.Proofs.Move.Parameters
import MoveWallet.Proofs.Move.TypeTagParser
import MoveWallet.Proofs.Move.TypeTagWire

namespace MoveWallet.Move

set_option autoImplicit false

open MoveWallet.Account
open MoveWallet.Text
open MoveWallet.Text.Blank
open MoveWallet.Text.Separator
open MoveWallet.Wire

/-- What holds of primitives, and of vectors and structs if of their parts, holds of all types. -/
@[elab_as_elim]
theorem TypeTag.induct {motive : TypeTag → Prop} (primitive : ∀ p, motive (.primitive p))
    (vector : ∀ t, motive t → motive (.vector t))
    (struct : ∀ a m n ps, (∀ p ∈ ps, motive p) → motive (.struct a m n ps)) (t : TypeTag) :
    motive t :=
  @TypeTag.rec motive (fun ps => ∀ p ∈ ps, motive p) primitive vector struct
    (fun _ member => absurd member List.not_mem_nil)
    (fun _ _ first others => List.forall_mem_cons.mpr ⟨first, others⟩) t

/-! ## Texts of types -/

variable {form : AddressForm}

-- `rfl` opens one layer of the text; the equations of the definition would evaluate its literals.
theorem render_primitive (p : Primitive) :
    (TypeTag.primitive p).render form = p.word.toList := rfl

theorem render_vector (t : TypeTag) :
    (TypeTag.vector t).render form = "vector<".toList ++ t.render form ++ ['>'] := rfl

theorem render_bare (a : Address) (m n : Identifier) :
    (TypeTag.struct a m n []).render form = renderPath form a m n := rfl

/-- A struct with parameters is its path with the list of their texts in angle brackets. -/
theorem render_struct (a : Address) (m n : Identifier) (t : TypeTag) (ts : List TypeTag) :
    (TypeTag.struct a m n (t :: ts)).render form =
      renderPath form a m n ++ ['<'] ++ (t.render form ++ renderMore form ts ++ ['>']) := by
  have whole : (TypeTag.struct a m n (t :: ts)).render form =
      renderPath form a m n ++ '<' :: t.render form ++ renderMore form ts ++ ['>'] := rfl
  rw [whole]
  simp only [List.append_assoc, List.cons_append, List.nil_append]

theorem renderMore_cons (t : TypeTag) (ts : List TypeTag) :
    renderMore form (t :: ts) = ", ".toList ++ t.render form ++ renderMore form ts := rfl

/-! ## Words -/

/-- A text of letters, digits and underscores. -/
structure IsWord (s : List Char) : Prop where
  nonempty : s ≠ []
  following : ∀ c ∈ s, isFollowing c = true

theorem toNat_lt_of_isFollowing {c : Char} (h : isFollowing c = true) : c.toNat < 128 := by
  have least : ∀ d : Char, c ≤ d → c.toNat ≤ d.toNat := fun d below => below
  simp only [isFollowing, isStart, Bool.or_eq_true, Bool.and_eq_true, decide_eq_true_eq,
    beq_iff_eq] at h
  rcases h with ((⟨-, small⟩ | ⟨-, capital⟩) | rfl) | ⟨-, digit⟩
  · exact Nat.lt_of_le_of_lt (least 'z' small) (by decide)
  · exact Nat.lt_of_le_of_lt (least 'Z' capital) (by decide)
  · decide
  · exact Nat.lt_of_le_of_lt (least '9' digit) (by decide)

theorem isBlank_of_isFollowing {c : Char} (h : isFollowing c = true) : isBlank c = false := by
  have table : ∀ c : Char, c.toNat < 0x80 → isFollowing c = true → isBlank c = false :=
    Utf8.forall_ascii (by decide +kernel)
  exact table c (toNat_lt_of_isFollowing h) h

theorem isFollowing_digit : ∀ n < 16, isFollowing (Hex.digit n) = true := by
  decide

namespace IsWord

variable {s : List Char}

theorem isBlank_of_mem (h : IsWord s) {c : Char} (member : c ∈ s) : isBlank c = false :=
  isBlank_of_isFollowing (h.following c member)

theorem not_mem (h : IsWord s) {c : Char} (other : isFollowing c = false) : c ∉ s := by
  intro member
  rw [h.following c member] at other
  cases other

theorem passes (h : IsWord s) (d : Nat) : Passes d s d := by
  refine Passes.plain d ?_
  rw [List.all_eq_true]
  intro c member
  rw [isPlain_iff]
  refine ⟨?_, ?_, ?_⟩
  all_goals
    rintro rfl
    exact h.not_mem (by decide) member

/-- A word has as many bytes as characters. -/
theorem length_encode (h : IsWord s) : (Utf8.encode s).length = s.length :=
  Utf8.length_encode_of_ascii fun c member => toNat_lt_of_isFollowing (h.following c member)

end IsWord

theorem isWord_word (p : Primitive) : IsWord p.word.toList := by
  cases p
  all_goals exact ⟨by decide, List.all_eq_true.mp (by decide)⟩

theorem isWord_text (i : Identifier) : IsWord i.text.toList := by
  have valid := i.valid
  rcases shape : i.text.toList with _ | ⟨c, s⟩
  · rw [shape] at valid
    cases valid
  · rw [shape, isIdentifier, Bool.and_eq_true, Bool.and_eq_true, List.all_eq_true] at valid
    obtain ⟨⟨first, others⟩, -⟩ := valid
    refine ⟨List.cons_ne_nil c s, List.forall_mem_cons.mpr ⟨?_, others⟩⟩
    rw [isFollowing, first, Bool.true_or]

/-! ## Addresses -/

/-- Both forms of an address are digits that spell it, the short one with the marker in front. -/
theorem exists_of_write (form : AddressForm) (a : Address) :
    ∃ ds, Spells ds a ∧ (form.write a = ds ∨ form.write a = '0' :: 'x' :: ds) := by
  cases form with
  | short =>
    obtain ⟨ds, spelled, text⟩ := exists_of_toHex a
    exact ⟨ds, spelled, .inr text⟩
  | full => exact ⟨_, spells_full a, .inl String.toList_ofList⟩

theorem isWord_write (form : AddressForm) (a : Address) : IsWord (form.write a) := by
  obtain ⟨ds, spelled, written⟩ := exists_of_write form a
  have digits : ∀ c ∈ ds, isFollowing c = true := by
    intro c member
    obtain ⟨n, small, rfl⟩ := spelled.digit_of_mem member
    exact isFollowing_digit n small
  rcases written with written | written
  · rw [written]
    exact ⟨spelled.nonempty, digits⟩
  · rw [written]
    refine ⟨List.cons_ne_nil _ _, ?_⟩
    rw [List.forall_mem_cons, List.forall_mem_cons]
    exact ⟨by decide, by decide, digits⟩

theorem head_of_write (form : AddressForm) (a : Address) :
    ∃ n < 16, ∃ rest, form.write a = Hex.digit n :: rest := by
  obtain ⟨ds, spelled, written | written⟩ := exists_of_write form a
  · obtain ⟨c, rest, shape⟩ := List.exists_cons_of_ne_nil spelled.nonempty
    obtain ⟨n, small, rfl⟩ := spelled.digit_of_mem (shape ▸ List.mem_cons_self)
    exact ⟨n, small, rest, written.trans shape⟩
  · exact ⟨0, by decide, _, written⟩

theorem parseAddress_write (form : AddressForm) (a : Address) :
    parseAddress (String.ofList (form.write a)) = .ok a := by
  obtain ⟨ds, spelled, written | written⟩ := exists_of_write form a
  · rw [parseAddress, written, spelled.parse_digits]
  · rw [parseAddress, written, spelled.parse_marked]

/-! ## Paths -/

theorem parse_text (i : Identifier) :
    Identifier.parse (String.ofList i.text.toList) = .ok i := by
  rw [String.ofList_toList, Identifier.parse, ofText?_text]

theorem renderPath_eq (a : Address) (m n : Identifier) :
    renderPath form a m n =
      form.write a ++ "::".toList ++ (m.text.toList ++ "::".toList ++ n.text.toList) := by
  simp only [renderPath, List.append_assoc]

/-- A path is cut into its parts if no colon stands in the first. -/
theorem splitPath?_append {a : List Char} (absent : ':' ∉ a) (m n : Identifier) :
    splitPath? (a ++ "::".toList ++ (m.text.toList ++ "::".toList ++ n.text.toList)) =
      some (a, m.text.toList, n.text.toList) := by
  have colon : isFollowing ':' = false := by decide
  have first : splitFirst? "::".toList
      (a ++ "::".toList ++ (m.text.toList ++ "::".toList ++ n.text.toList)) =
      some (a, m.text.toList ++ "::".toList ++ n.text.toList) := splitFirst?_append _ absent
  have second : splitFirst? "::".toList (m.text.toList ++ "::".toList ++ n.text.toList) =
      some (m.text.toList, n.text.toList) :=
    splitFirst?_append _ ((isWord_text m).not_mem colon)
  have last : contains "::".toList n.text.toList = false := by
    have none : splitFirst? "::".toList n.text.toList = none :=
      splitFirst?_eq_none ((isWord_text n).not_mem colon)
    rw [contains, none]
    rfl
  rw [splitPath?, first]
  simp only [second, last, Bool.false_eq_true, if_false]

theorem splitPath?_renderPath (a : Address) (m n : Identifier) :
    splitPath? (renderPath form a m n) = some (form.write a, m.text.toList, n.text.toList) := by
  rw [renderPath_eq]
  exact splitPath?_append ((isWord_write form a).not_mem (by decide)) m n

theorem tight_renderPath (a : Address) (m n : Identifier) : Tight (renderPath form a m n) := by
  have parts : renderPath form a m n =
      form.write a ++ ("::".toList ++ m.text.toList ++ "::".toList) ++ n.text.toList := by
    simp only [renderPath, List.append_assoc]
  rw [parts]
  exact tight_append _ (isWord_write form a).nonempty (isWord_text n).nonempty
    (fun c => (isWord_write form a).isBlank_of_mem) fun c => (isWord_text n).isBlank_of_mem

theorem angle_not_mem_renderPath (a : Address) (m n : Identifier) :
    '<' ∉ renderPath form a m n := by
  have angle : isFollowing '<' = false := by decide
  have colons : '<' ∉ "::".toList := by decide
  simp only [renderPath, List.mem_append, not_or]
  exact ⟨⟨⟨⟨(isWord_write form a).not_mem angle, colons⟩, (isWord_text m).not_mem angle⟩, colons⟩,
    (isWord_text n).not_mem angle⟩

theorem passes_renderPath (a : Address) (m n : Identifier) (d : Nat) :
    Passes d (renderPath form a m n) d := by
  have colons : Passes d "::".toList d := Passes.plain d (by decide)
  exact ((((isWord_write form a).passes d).append colons).append ((isWord_text m).passes d)
    |>.append colons).append ((isWord_text n).passes d)

theorem parsePath_renderPath (whole : List Char) (a : Address) (m n : Identifier)
    (ps : List TypeTag) : parsePath whole (renderPath form a m n) ps = .ok ⟨a, m, n, ps⟩ := by
  simp only [parsePath, trim_of_tight (tight_renderPath a m n), splitPath?_renderPath,
    parseAddress_write, parse_text, ok_bind, pure_eq_ok]

/-! ## Parameters -/

/-- The entries of a parameter list as they are written: all but the first begin with a blank. -/
def entries (form : AddressForm) : List TypeTag → List (List Char)
  | [] => []
  | t :: ts => t.render form :: ts.map fun u => ' ' :: u.render form

theorem renderMore_eq (ts : List TypeTag) :
    renderMore form ts = (ts.map fun u => ' ' :: u.render form).flatMap (',' :: ·) := by
  induction ts with
  | nil => rfl
  | cons t ts ih =>
    rw [renderMore_cons, ih]
    rfl

theorem passes_renderMore {ts : List TypeTag} (h : ∀ t ∈ ts, ∀ d, Passes d (t.render form) d)
    (d : Nat) : Passes (d + 1) (renderMore form ts) (d + 1) := by
  induction ts with
  | nil => exact Passes.nil _
  | cons t ts ih =>
    rw [List.forall_mem_cons] at h
    have comma : Passes (d + 1) [','] (d + 1) :=
      Passes.char (by decide) (by decide) (.inr (Nat.succ_pos d))
    have blank : Passes (d + 1) [' '] (d + 1) := Passes.plain _ (by decide)
    rw [renderMore_cons]
    exact ((comma.append blank).append (h.1 _)).append (ih h.2)

/-- The text of a type is passed over, whatever brackets it stands in. -/
theorem passes_render (t : TypeTag) : ∀ d, Passes d (t.render form) d := by
  induction t using TypeTag.induct with
  | primitive p =>
    intro d
    rw [render_primitive]
    exact (isWord_word p).passes d
  | vector t ih =>
    intro d
    have word : Passes d "vector".toList d := Passes.plain d (by decide)
    have whole : (TypeTag.vector t).render form =
        "vector".toList ++ (['<'] ++ t.render form ++ ['>']) := rfl
    rw [whole]
    exact word.append (ih (d + 1)).brackets
  | struct a m n ps ih =>
    intro d
    cases ps with
    | nil =>
      rw [render_bare]
      exact passes_renderPath a m n d
    | cons t ts =>
      rw [List.forall_mem_cons] at ih
      have inside : Passes (d + 1) (t.render form ++ renderMore form ts) (d + 1) :=
        (ih.1 (d + 1)).append (passes_renderMore ih.2 d)
      have whole : (TypeTag.struct a m n (t :: ts)).render form =
          renderPath form a m n ++ (['<'] ++ (t.render form ++ renderMore form ts) ++ ['>']) := by
        rw [render_struct, List.append_assoc]
        rfl
      rw [whole]
      exact (passes_renderPath a m n d).append inside.brackets

/-- No type begins or ends with a blank. -/
theorem tight_render (t : TypeTag) : Tight (t.render form) := by
  cases t with
  | primitive p =>
    rw [render_primitive]
    exact tight_of_forall (isWord_word p).nonempty fun c => (isWord_word p).isBlank_of_mem
  | vector t =>
    rw [render_vector]
    exact tight_append _ (by decide) (by decide) (isBlank_of_any (by decide))
      (isBlank_of_any (by decide))
  | struct a m n ps =>
    cases ps with
    | nil =>
      rw [render_bare]
      exact tight_renderPath a m n
    | cons t ts =>
      have ends : (TypeTag.struct a m n (t :: ts)).render form =
          form.write a ++ ("::".toList ++ (m.text.toList ++ "::".toList ++ n.text.toList) ++ ['<'] ++
            (t.render form ++ renderMore form ts)) ++ ['>'] := by
        rw [render_struct, renderPath_eq]
        simp only [List.append_assoc]
      rw [ends]
      exact tight_append _ (isWord_write form a).nonempty (by decide)
        (fun c => (isWord_write form a).isBlank_of_mem) (isBlank_of_any (by decide))

theorem trim_entry (t : TypeTag) : trim (' ' :: t.render form) = t.render form := by
  have around : trim ([' '] ++ t.render form ++ []) = t.render form :=
    trim_around (tight_render t) (by decide) rfl
  rw [List.append_nil] at around
  exact around

theorem splitParams?_render (t : TypeTag) (ts : List TypeTag) :
    splitParams? (t.render form ++ renderMore form ts) = some (entries form (t :: ts)) := by
  have blank : Passes 0 [' '] 0 := Passes.plain 0 (by decide)
  rw [renderMore_eq]
  refine splitParams?_join ?_ ?_
  · rw [List.forall_mem_cons, List.forall_mem_map]
    exact ⟨passes_render t 0, fun u _ => blank.append (passes_render u 0)⟩
  · rw [List.forall_mem_cons, List.forall_mem_map]
    refine ⟨isBlankText_of_tight (tight_render t), ?_⟩
    intro u _
    rw [isBlankText, List.all_cons, ← isBlankText, isBlankText_of_tight (tight_render u),
      Bool.and_false]

/-! ## Structs -/

/-- A struct is read from its text if each parameter is read from every text that trims to its
own. -/
theorem parseStructWith_render {param : List Char → Except MoveError TypeTag} (a : Address)
    (m n : Identifier) {ps : List TypeTag}
    (each : ∀ p ∈ ps, ∀ input, trim input = p.render form → param input = .ok p) :
    parseStructWith param ((TypeTag.struct a m n ps).render form) = .ok ⟨a, m, n, ps⟩ := by
  cases ps with
  | nil =>
    have none : splitFirst? ['<'] (renderPath form a m n) = none :=
      splitFirst?_eq_none (angle_not_mem_renderPath a m n)
    rw [render_bare, parseStructWith, none]
    exact parsePath_renderPath _ a m n []
  | cons t ts =>
    have cut : splitFirst? ['<'] ((TypeTag.struct a m n (t :: ts)).render form) =
        some (renderPath form a m n, t.render form ++ renderMore form ts ++ ['>']) := by
      rw [render_struct]
      exact splitFirst?_append _ (angle_not_mem_renderPath a m n)
    have inner : dropSuffix? ['>'] (t.render form ++ renderMore form ts ++ ['>']) =
        some (t.render form ++ renderMore form ts) := dropSuffix?_eq_some.mpr rfl
    rw [List.forall_mem_cons] at each
    have first : param (t.render form) = .ok t := each.1 _ (trim_of_tight (tight_render t))
    have others : (ts.map fun u => ' ' :: u.render form).mapM param = .ok ts :=
      mapM_map_eq_ok fun u member => each.2 u member _ (trim_entry u)
    have params : (entries form (t :: ts)).mapM param = .ok (t :: ts) :=
      mapM_cons_eq_ok.mpr ⟨t, ts, first, others, rfl⟩
    rw [parseStructWith, cut]
    simp only [inner, splitParams?_render, params, ok_bind]
    exact parsePath_renderPath _ a m n (t :: ts)

/-! ## Types -/

theorem ofWord?_word (p : Primitive) : Primitive.ofWord? p.word.toList = some p := by
  cases p
  all_goals rfl

theorem word_of_ofWord? {s : List Char} {p : Primitive} (h : Primitive.ofWord? s = some p) :
    p.word.toList = s := by
  unfold Primitive.ofWord? at h
  split at h
  case h_10 => cases h
  all_goals
    rename_i same
    cases h
    exact (congrArg String.toList same).symm.trans String.toList_ofList

/-- Text with a character that is in no word is not that of a primitive type. -/
theorem ofWord?_eq_none {s : List Char} {c : Char} (other : isFollowing c = false)
    (member : c ∈ s) : Primitive.ofWord? s = none := by
  rcases found : Primitive.ofWord? s with _ | p
  · rfl
  · rw [← word_of_ofWord? found] at member
    exact absurd member ((isWord_word p).not_mem other)

theorem vectorElement?_vector (inner : List Char) :
    vectorElement? ("vector<".toList ++ inner ++ ['>']) = some inner := by
  have begun : dropPrefix? "vector<".toList ("vector<".toList ++ inner ++ ['>']) =
      some (inner ++ ['>']) := dropPrefix?_eq_some.mpr (List.append_assoc _ _ _)
  rw [vectorElement?, begun]
  exact dropSuffix?_eq_some.mpr rfl

/-- The text of a struct begins with its path. -/
theorem exists_of_render_struct (form : AddressForm) (a : Address) (m n : Identifier)
    (ps : List TypeTag) :
    ∃ rest, (TypeTag.struct a m n ps).render form = form.write a ++ "::".toList ++ rest := by
  cases ps with
  | nil =>
    rw [render_bare, renderPath_eq]
    exact ⟨_, rfl⟩
  | cons t ts =>
    rw [render_struct, renderPath_eq, List.append_assoc, List.append_assoc]
    exact ⟨_, rfl⟩

/-- The text of a struct is that of no other kind of type, and has a path. -/
theorem kind_of_render_struct (form : AddressForm) (a : Address) (m n : Identifier)
    (ps : List TypeTag) :
    Primitive.ofWord? ((TypeTag.struct a m n ps).render form) = none ∧
    vectorElement? ((TypeTag.struct a m n ps).render form) = none ∧
    contains "::".toList ((TypeTag.struct a m n ps).render form) = true := by
  obtain ⟨rest, whole⟩ := exists_of_render_struct form a m n ps
  rw [whole]
  refine ⟨ofWord?_eq_none (c := ':') (by decide) (by simp), ?_, ?_⟩
  · have other : ∀ n < 16, 'v' ≠ Hex.digit n := by decide
    obtain ⟨k, small, tail, written⟩ := head_of_write form a
    have fixed : "vector<".toList = 'v' :: "ector<".toList := rfl
    rw [written, vectorElement?, fixed, List.cons_append, List.cons_append,
      dropPrefix?_of_ne (other k small)]
    rfl
  · have cut : splitFirst? "::".toList (form.write a ++ "::".toList ++ rest) =
        some (form.write a, rest) :=
      splitFirst?_append rest ((isWord_write form a).not_mem (by decide))
    rw [contains, cut]
    rfl

theorem weight_le_paramsWeight {ps : List TypeTag} {p : TypeTag} (member : p ∈ ps) :
    2 + p.weight ≤ paramsWeight ps := by
  induction ps with
  | nil => cases member
  | cons q ps ih =>
    rw [paramsWeight]
    rcases List.mem_cons.mp member with rfl | member
    · exact Nat.le_max_left _ _
    · exact Nat.le_trans (ih member) (Nat.le_max_right _ _)

/-- A type is read from its text, with blanks round it or not, where enough levels are left. -/
theorem parseTypeTag_render (t : TypeTag) : ∀ (levels : Nat) (input : List Char),
    trim input = t.render form → t.weight < levels → parseTypeTag levels input = .ok t := by
  induction t using TypeTag.induct with
  | primitive p =>
    intro levels input text fits
    obtain ⟨levels, rfl⟩ := Nat.exists_eq_succ_of_ne_zero (Nat.ne_zero_of_lt fits)
    rw [render_primitive] at text
    rw [parseTypeTag]
    simp only [text, ofWord?_word]
  | vector t ih =>
    intro levels input text fits
    obtain ⟨levels, rfl⟩ := Nat.exists_eq_succ_of_ne_zero (Nat.ne_zero_of_lt fits)
    rw [TypeTag.weight] at fits
    rw [render_vector] at text
    have other : Primitive.ofWord? ("vector<".toList ++ t.render form ++ ['>']) = none :=
      ofWord?_eq_none (c := '<') (by decide) (by simp)
    have element := ih levels (t.render form) (trim_of_tight (tight_render t)) (by omega)
    rw [parseTypeTag]
    simp only [text, other, vectorElement?_vector, element, ok_bind, pure_eq_ok]
  | struct a m n ps ih =>
    intro levels input text fits
    obtain ⟨levels, rfl⟩ := Nat.exists_eq_succ_of_ne_zero (Nat.ne_zero_of_lt fits)
    rw [TypeTag.weight] at fits
    obtain ⟨word, element, path⟩ := kind_of_render_struct form a m n ps
    have read : parseStructTag levels ((TypeTag.struct a m n ps).render form) =
        .ok ⟨a, m, n, ps⟩ := by
      rw [parseStructTag_eq]
      refine parseStructWith_render a m n ?_
      intro p member entry trimmed
      have below := weight_le_paramsWeight member
      exact ih p member (levels - 1) entry trimmed (by omega)
    rw [parseTypeTag]
    simp only [text, word, element, path, if_true, read, ok_bind, pure_eq_ok, StructTag.toTypeTag]

end MoveWallet.Move
