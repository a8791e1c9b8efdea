/-
# MoveWallet.Proofs.Move.TypeTagParser — a type read from text can be sent

Text and wire bound the depth of a type in different ways: the parser counts the levels of the
reader that it is in, the wire the weight of a type.  `weight_lt_of_parseTypeTag` says that they
agree, so no type that the parser accepts is refused by the reader of its bytes.

What the parser does is said once, as what an accepted path, struct or type is made of
(`parts_of_parsePath`, `parts_of_parseStructWith`, `parts_of_parseTypeTag`).
-/
import MoveWallet.Move.TypeTag.Parser
import MoveWallet.Proofs.Text.Separator
import MoveWallet.Proofs.Wire.Answer

namespace MoveWallet.Move

set_option autoImplicit false

open MoveWallet.Text.Blank
open MoveWallet.Text.Separator
open MoveWallet.Wire (bind_eq_ok exists_of_mapM)

/-! ## Structs -/

theorem append_of_splitPath? {s a m n : List Char} (h : splitPath? s = some (a, m, n)) :
    s = a ++ "::".toList ++ (m ++ "::".toList ++ n) := by
  unfold splitPath? at h
  split at h
  · cases h
  · rename_i front rest first
    split at h
    · cases h
    · rename_i middle last second
      split at h
      · cases h
      · cases h
        rw [append_of_splitFirst? first, append_of_splitFirst? second]

/-- A struct is read from a path in three parts. -/
theorem parts_of_parsePath {whole path : List Char} {params : List TypeTag} {s : StructTag}
    (h : parsePath whole path params = .ok s) :
    s.params = params ∧ ∃ a m n, splitPath? (trim path) = some (a, m, n) ∧
      parseAddress (String.ofList a) = .ok s.address ∧
      Identifier.parse (String.ofList m) = .ok s.module ∧
      Identifier.parse (String.ofList n) = .ok s.name := by
  unfold parsePath at h
  split at h
  · cases h
  · rename_i a m n cut
    obtain ⟨address, readAddress, h⟩ := bind_eq_ok.mp h
    obtain ⟨module, readModule, h⟩ := bind_eq_ok.mp h
    obtain ⟨name, readName, h⟩ := bind_eq_ok.mp h
    cases h
    exact ⟨rfl, a, m, n, cut, readAddress, readModule, readName⟩

/-- A struct is a path alone, or a path and the entries of a list in angle brackets. -/
theorem parts_of_parseStructWith {param : List Char → Except MoveError TypeTag} {text : List Char}
    {s : StructTag} (h : parseStructWith param text = .ok s) :
    parsePath text text [] = .ok s ∨
    ∃ path inner parts, text = path ++ ['<'] ++ (inner ++ ['>']) ∧
      splitParams? inner = some parts ∧ parts.mapM param = .ok s.params ∧
      parsePath text path s.params = .ok s := by
  unfold parseStructWith at h
  split at h
  · exact .inl h
  · rename_i path rest cut
    split at h
    · cases h
    · rename_i inner dropped
      split at h
      · cases h
      · rename_i parts entries
        obtain ⟨params, read, made⟩ := bind_eq_ok.mp h
        obtain ⟨same, -⟩ := parts_of_parsePath made
        subst same
        refine .inr ⟨path, inner, parts, ?_, entries, read, made⟩
        rw [append_of_splitFirst? cut, dropSuffix?_eq_some.mp dropped]

/-- A struct's parameters are answers of the reader of parameters. -/
theorem exists_of_parseStructWith {param : List Char → Except MoveError TypeTag} {text : List Char}
    {s : StructTag} (h : parseStructWith param text = .ok s) {t : TypeTag} (member : t ∈ s.params) :
    ∃ part, param part = .ok t := by
  rcases parts_of_parseStructWith h with bare | ⟨path, inner, parts, -, -, read, -⟩
  · rw [(parts_of_parsePath bare).1] at member
    cases member
  · obtain ⟨part, -, found⟩ := exists_of_mapM read member
    exact ⟨part, found⟩

/-- A struct's parameters are read one level below it, and none at the last level. -/
theorem parseStructTag_eq (levels : Nat) :
    parseStructTag levels = parseStructWith (parseTypeTag (levels - 1)) := by
  cases levels with
  | zero => rfl
  | succ levels => rfl

/-! ## Types -/

/-- A type that is read is a primitive, or a vector or struct whose parts are read with fewer levels
left, one for a vector and two for a struct. -/
theorem parts_of_parseTypeTag {levels : Nat} {text : List Char} {t : TypeTag}
    (h : parseTypeTag levels text = .ok t) :
    0 < levels ∧
    ((∃ p, t = .primitive p) ∨
      (∃ inner element, trim text = "vector<".toList ++ (inner ++ ['>']) ∧
        parseTypeTag (levels - 1) inner = .ok element ∧ t = .vector element) ∨
      ∃ s, parseStructWith (parseTypeTag (levels - 2)) (trim text) = .ok s ∧ t = s.toTypeTag) := by
  cases levels with
  | zero =>
    rw [parseTypeTag] at h
    cases h
  | succ levels =>
    refine ⟨Nat.succ_pos levels, ?_⟩
    rw [parseTypeTag] at h
    split at h
    · rename_i p word
      cases h
      exact .inl ⟨p, rfl⟩
    · split at h
      · rename_i inner found
        obtain ⟨element, read, made⟩ := bind_eq_ok.mp h
        obtain ⟨rest, begun, ended⟩ := Option.bind_eq_some_iff.mp found
        cases made
        refine .inr (.inl ⟨inner, element, ?_, read, rfl⟩)
        rw [dropPrefix?_eq_some.mp begun, dropSuffix?_eq_some.mp ended]
      · split at h
        · obtain ⟨s, read, made⟩ := bind_eq_ok.mp h
          cases made
          rw [parseStructTag_eq] at read
          exact .inr (.inr ⟨s, read, rfl⟩)
        · cases h

/-! ## Depth -/

theorem paramsWeight_le {bound : Nat} {ts : List TypeTag} (h : ∀ t ∈ ts, 2 + t.weight ≤ bound) :
    paramsWeight ts ≤ bound := by
  induction ts with
  | nil => exact Nat.zero_le bound
  | cons t ts ih =>
    have first := h t List.mem_cons_self
    have others := ih fun u member => h u (List.mem_cons_of_mem t member)
    rw [paramsWeight]
    exact Nat.max_le.mpr ⟨first, others⟩

/-- A type that is read where it may reach `levels` levels weighs less than that. -/
theorem weight_lt_of_parseTypeTag {levels : Nat} {text : List Char} {t : TypeTag}
    (h : parseTypeTag levels text = .ok t) : t.weight < levels := by
  -- A vector costs one level of the reader and a struct with parameters two, as in `weight`.
  induction levels using Nat.strongRecOn generalizing text t with
  | ind levels ih =>
    obtain ⟨left, ⟨p, rfl⟩ | ⟨inner, element, -, read, rfl⟩ | ⟨s, read, rfl⟩⟩ := parts_of_parseTypeTag h
    · exact left
    · have below := ih (levels - 1) (by omega) read
      rw [TypeTag.weight]
      omega
    · have params : ∀ p ∈ s.params, 2 + p.weight ≤ levels - 1 := by
        intro p member
        obtain ⟨part, found⟩ := exists_of_parseStructWith read member
        have below := ih (levels - 2) (by omega) found
        omega
      have below := paramsWeight_le params
      rw [StructTag.toTypeTag, TypeTag.weight]
      omega

/-- No type that is read from text is too deep to be sent. -/
theorem TypeTag.weight_le_of_parse {text : String} {t : TypeTag} (h : TypeTag.parse text = .ok t) :
    t.weight ≤ maxDepth :=
  Nat.le_of_lt_succ (weight_lt_of_parseTypeTag h)

end MoveWallet.Move
