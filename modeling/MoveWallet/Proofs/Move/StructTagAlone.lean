/-
# MoveWallet.Proofs.Move.StructTagAlone — a struct alone and a struct as a type

Levels are counted from where a reader starts.  A struct that is read alone has its parameters at the
second level, a struct that is read as a type has them at the third, so the last level, at which
parameters weigh 15, is open to the struct alone.  Nothing else tells the two readers apart:
`parseTypeTag_of_weight` says that levels decide only whether a type is read and never as what, and
`kind_of_parseStructWith` that a text of a struct is that of no other type.
-/
import MoveWallet.Proofs.Move.StructTagText

namespace MoveWallet.Move

set_option autoImplicit false

open MoveWallet.Text.Blank
open MoveWallet.Text.Separator
open MoveWallet.Wire

/-! ## Texts of structs -/

/-- A path has a pair of colons. -/
theorem contains_of_splitPath? {path a m n : List Char}
    (h : splitPath? (trim path) = some (a, m, n)) (rest : List Char) :
    contains "::".toList (path ++ rest) = true := by
  obtain ⟨before, after, whole, -, -⟩ := exists_append_trim path
  have place : path ++ rest =
      before ++ a ++ "::".toList ++ (m ++ "::".toList ++ n ++ after ++ rest) := by
    rw [whole, append_of_splitPath? h]
    simp only [List.append_assoc]
  rw [place]
  exact contains_append _ _

/-- The text of a struct is that of no other kind of type, and has a path. -/
theorem kind_of_parseStructWith {param : List Char → Except MoveError TypeTag} {text : List Char}
    {s : StructTag} (h : parseStructWith param text = .ok s) :
    Primitive.ofWord? text = none ∧ vectorElement? text = none ∧
      contains "::".toList text = true := by
  have path : contains "::".toList text = true := by
    rcases parts_of_parseStructWith h with bare | ⟨path, inner, parts, whole, -, -, made⟩
    · obtain ⟨-, a, m, n, cut, -⟩ := parts_of_parsePath bare
      simpa using contains_of_splitPath? cut []
    · obtain ⟨-, a, m, n, cut, -⟩ := parts_of_parsePath made
      rw [whole, List.append_assoc]
      exact contains_of_splitPath? cut _
  refine ⟨?_, ?_, path⟩
  · apply ofWord?_eq_none (c := ':') (by decide)
    by_contra absent
    have none : splitFirst? "::".toList text = none := splitFirst?_eq_none absent
    rw [contains, none] at path
    cases path
  · rw [Option.eq_none_iff_forall_ne_some]
    intro inner found
    obtain ⟨rest, begun, -⟩ := Option.bind_eq_some_iff.mp found
    have cut : splitFirst? ['<'] ("vector".toList ++ ['<'] ++ rest) = some ("vector".toList, rest) :=
      splitFirst?_append rest (by decide)
    rw [dropPrefix?_eq_some.mp begun] at h
    change parseStructWith param ("vector".toList ++ ['<'] ++ rest) = _ at h
    -- what stands before the bracket is one word and no path
    unfold parseStructWith at h
    simp only [cut] at h
    split at h
    · cases h
    · split at h
      · cases h
      · obtain ⟨params, -, made⟩ := bind_eq_ok.mp h
        obtain ⟨-, a, m, n, cut, -⟩ := parts_of_parsePath made
        cases cut

/-! ## Levels -/

/-- A reader of parameters may be replaced by one that reads the parameters of the struct alike. -/
theorem parseStructWith_of_params {param param' : List Char → Except MoveError TypeTag}
    {text : List Char} {s : StructTag} (h : parseStructWith param text = .ok s)
    (same : ∀ part, ∀ p ∈ s.params, param part = .ok p → param' part = .ok p) :
    parseStructWith param' text = .ok s := by
  unfold parseStructWith at h ⊢
  split at h
  · exact h
  · split at h
    · cases h
    · split at h
      · cases h
      · obtain ⟨params, read, made⟩ := bind_eq_ok.mp h
        obtain ⟨rfl, -⟩ := parts_of_parsePath made
        simp only [mapM_eq_ok_of_forall read same, ok_bind]
        exact made

/-- What is read with some levels is read as the same type with any number that its weight leaves
room for. -/
theorem parseTypeTag_of_weight {levels levels' : Nat} {text : List Char} {t : TypeTag}
    (h : parseTypeTag levels text = .ok t) (fits : t.weight < levels') :
    parseTypeTag levels' text = .ok t := by
  induction levels using Nat.strongRecOn generalizing levels' text t with
  | ind levels ih =>
    obtain ⟨levels', rfl⟩ := Nat.exists_eq_succ_of_ne_zero (Nat.ne_zero_of_lt fits)
    cases levels with
    | zero =>
      rw [parseTypeTag] at h
      cases h
    | succ levels =>
      rw [parseTypeTag] at h ⊢
      split at h
      · exact h
      · split at h
        · rename_i inner found
          obtain ⟨element, read, made⟩ := bind_eq_ok.mp h
          cases made
          rw [TypeTag.weight] at fits
          have below : element.weight < levels' := by omega
          have again := ih levels (Nat.lt_succ_self levels) read below
          simp only [again, ok_bind, pure_eq_ok]
        · split at h
          · rename_i path
            obtain ⟨s, read, made⟩ := bind_eq_ok.mp h
            cases made
            rw [parseStructTag_eq] at read
            rw [StructTag.toTypeTag, TypeTag.weight] at fits
            have again : parseStructTag levels' (trim text) = .ok s := by
              rw [parseStructTag_eq]
              apply parseStructWith_of_params read
              intro part p member answer
              have below := weight_le_paramsWeight member
              exact ih (levels - 1) (by omega) answer (by omega)
            simp only [path, if_true, again, ok_bind, pure_eq_ok]
          · cases h

/-! ## The two readers -/

namespace StructTag

/-- Inside a type the struct's own level counts. -/
theorem weight_toTypeTag_le_iff {s : StructTag} {bound : Nat} :
    s.toTypeTag.weight ≤ bound + 2 ↔ ∀ p ∈ s.params, p.weight ≤ bound := by
  rw [StructTag.toTypeTag, TypeTag.weight]
  constructor
  · intro h p member
    have below := weight_le_paramsWeight member
    omega
  · intro h
    apply paramsWeight_le
    intro p member
    have light := h p member
    omega

/-- A text is a struct as a type if it is that struct alone and leaves room for one more level. -/
theorem parse_toTypeTag_iff {text : String} {s : StructTag} :
    TypeTag.parse text = .ok s.toTypeTag ↔
      StructTag.parse text = .ok s ∧ ∀ p ∈ s.params, p.weight ≤ 14 := by
  rw [parse_eq]
  constructor
  · intro h
    have light := weight_toTypeTag_le_iff.mp (TypeTag.weight_le_of_parse h)
    refine ⟨?_, light⟩
    obtain ⟨-, ⟨p, word⟩ | ⟨inner, element, -, -, vector⟩ | ⟨s', read, same⟩⟩ :=
      parts_of_parseTypeTag h
    · cases word
    · cases vector
    · rw [toTypeTag_inj.mp same]
      apply parseStructWith_of_params read
      intro part p member answer
      apply parseTypeTag_of_weight answer
      have below := weight_lt_of_parseTypeTag answer
      exact Nat.lt_trans below (by decide)
  · rintro ⟨h, light⟩
    obtain ⟨noWord, noVector, path⟩ := kind_of_parseStructWith h
    have read : parseStructTag maxDepth (trim text.toList) = .ok s := by
      rw [parseStructTag_eq]
      apply parseStructWith_of_params h
      intro part p member answer
      exact parseTypeTag_of_weight answer (Nat.lt_succ_of_le (light p member))
    rw [TypeTag.parse, parseTypeTag]
    simp only [noWord, noVector, path, if_true, read, ok_bind, pure_eq_ok]

/-- Alone, a struct is decoded from its bytes exactly if no parameter weighs more than 15. -/
theorem decodeExact_iff {bs : List UInt8} {s : StructTag} :
    StructTag.codec.decodeExact bs = .ok s ↔
      s.encode = .ok bs ∧ ∀ p ∈ s.params, p.weight ≤ 15 := by
  have reads : StructTag.codec.Reads fun s => s.toTypeTag.fault (maxDepth + 2) :=
    reads_codecAt (TypeTag.reads_codecAt maxDepth)
  have canonical : StructTag.codec.Canonical := canonical_codecAt (TypeTag.canonical_codecAt maxDepth)
  have sound : s.toTypeTag.fault (maxDepth + 2) = none ↔ ∀ p ∈ s.params, p.weight ≤ 15 :=
    TypeTag.fault_eq_none_iff.trans (Nat.lt_succ_iff.trans weight_toTypeTag_le_iff)
  rw [← sound]
  exact reads.decodeExact_eq_ok_iff canonical

/-- As a type it has one more byte in front, and one level less. -/
theorem decodeExact_toTypeTag_iff {bs : List UInt8} {s : StructTag} :
    TypeTag.codec.decodeExact (7 :: bs) = .ok s.toTypeTag ↔
      StructTag.codec.decodeExact bs = .ok s ∧ ∀ p ∈ s.params, p.weight ≤ 14 := by
  have reads : TypeTag.codec.Reads (TypeTag.fault (maxDepth + 1)) := TypeTag.reads_codecAt _
  have canonical : TypeTag.codec.Canonical := TypeTag.canonical_codecAt _
  have written : s.toTypeTag.encode = .ok (7 :: bs) ↔ s.encode = .ok bs := by
    rw [encode_struct, encodeVariant_append_eq_ok]
    constructor
    · rintro ⟨u, made, same⟩
      cases same
      exact made
    · intro made
      exact ⟨bs, made, rfl⟩
  have sound : s.toTypeTag.fault (maxDepth + 1) = none ↔ ∀ p ∈ s.params, p.weight ≤ 14 :=
    TypeTag.fault_eq_none_iff.trans (Nat.lt_succ_iff.trans weight_toTypeTag_le_iff)
  have first : TypeTag.codec.decodeExact (7 :: bs) = .ok s.toTypeTag ↔
      s.toTypeTag.encode = .ok (7 :: bs) ∧ s.toTypeTag.fault (maxDepth + 1) = none :=
    reads.decodeExact_eq_ok_iff canonical
  rw [first, written, sound, decodeExact_iff]
  constructor
  · rintro ⟨made, light⟩
    refine ⟨⟨made, ?_⟩, light⟩
    intro p member
    exact Nat.le_succ_of_le (light p member)
  · rintro ⟨⟨made, -⟩, light⟩
    exact ⟨made, light⟩

/-- A struct is read as a type, from text or from bytes, exactly if it is read alone and no parameter
weighs more than 14.  Alone, parameters may weigh one more, and no more than that. -/
theorem alone_and_as_type :
    (∀ (text : String) (s : StructTag), TypeTag.parse text = .ok s.toTypeTag ↔
      StructTag.parse text = .ok s ∧ ∀ p ∈ s.params, p.weight ≤ 14) ∧
    (∀ (bs : List UInt8) (s : StructTag), TypeTag.codec.decodeExact (7 :: bs) = .ok s.toTypeTag ↔
      StructTag.codec.decodeExact bs = .ok s ∧ ∀ p ∈ s.params, p.weight ≤ 14) ∧
    (∀ (text : String) (s : StructTag), StructTag.parse text = .ok s →
      ∀ p ∈ s.params, p.weight ≤ 15) ∧
    (∀ (bs : List UInt8) (s : StructTag), StructTag.codec.decodeExact bs = .ok s →
      ∀ p ∈ s.params, p.weight ≤ 15) := by
  refine ⟨?_, ?_, ?_, ?_⟩
  · intro text s
    exact parse_toTypeTag_iff
  · intro bs s
    exact decodeExact_toTypeTag_iff
  · intro text s
    exact weight_le_of_parse
  · intro bs s read
    exact (decodeExact_iff.mp read).2

/-- A box of fifteen vectors is a struct alone, as text and as bytes, and no type. -/
theorem alone_not_as_type :
    StructTag.parse ("0x2::box::Box<vector<vector<vector<vector<vector<vector<vector<vector<" ++
      "vector<vector<vector<vector<vector<vector<vector<bool>>>>>>>>>>>>>>>>") =
        .ok (boxOf (.nest 15 (.primitive .bool))) ∧
    TypeTag.parse ("0x2::box::Box<vector<vector<vector<vector<vector<vector<vector<vector<" ++
      "vector<vector<vector<vector<vector<vector<vector<bool>>>>>>>>>>>>>>>>") =
        badTypeTag "bool".toList .tooDeep ∧
    StructTag.codec.decodeExact (List.replicate 31 0 ++ [2, 3, 98, 111, 120, 3, 66, 111, 120, 1] ++
      List.replicate 15 6 ++ [0]) = .ok (boxOf (.nest 15 (.primitive .bool))) ∧
    TypeTag.codec.decodeExact (7 :: (List.replicate 31 0 ++
      [2, 3, 98, 111, 120, 3, 66, 111, 120, 1] ++ List.replicate 15 6 ++ [0])) = .error tooDeep := by
  decide +kernel

end StructTag

end MoveWallet.Move
