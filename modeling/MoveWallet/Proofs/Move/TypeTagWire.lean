/-
# MoveWallet.Proofs.Move.TypeTagWire — types are read back up to a weight, and in one form only

`TypeTag.reads_codecAt` is exact: a reader with some levels left reads the types whose weight is
below that number and refuses every other as too deep.  `TypeTag.canonical_codecAt` says that a
reader of any number of levels accepts only what is written.  Writing knows no levels, so two types
are told apart by a reader that has enough of them for both (`TypeTag.prefixFree`).
-/
import MoveWallet.Move.FunctionId
import MoveWallet.Move.TypeTag.Wire
import MoveWallet.Proofs.Account.Wire

namespace MoveWallet.Move

set_option autoImplicit false

open MoveWallet.Account
open MoveWallet.Wire

/-! ## Names -/

theorem ofText?_text (i : Identifier) : Identifier.ofText? i.text = some i := dif_pos i.valid

theorem text_of_ofText? {text : String} {i : Identifier} (h : Identifier.ofText? text = some i) :
    i.text = text := by
  unfold Identifier.ofText? at h
  split at h
  · cases h
    rfl
  · cases h

theorem faithful_identifier : Identifier.codec.Faithful :=
  Codec.Reads.refine Codec.faithful_text ofText?_text

theorem canonical_identifier : Identifier.codec.Canonical :=
  Codec.canonical_text.refine fun _ _ found => text_of_ofText? found

theorem faithful_moduleId : ModuleId.codec.Faithful :=
  Codec.Reads.map (faithful_address.pair faithful_identifier) fun _ => rfl

theorem canonical_moduleId : ModuleId.codec.Canonical :=
  (canonical_address.pair canonical_identifier).map fun _ => rfl

theorem faithful_functionId : FunctionId.codec.Faithful :=
  Codec.Reads.map (faithful_moduleId.pair faithful_identifier) fun _ => rfl

theorem canonical_functionId : FunctionId.codec.Canonical :=
  (canonical_moduleId.pair canonical_identifier).map fun _ => rfl

/-! ## Structs by a codec of their parameters -/

/-- Structs whose parameters have a given codec: address, module, name and parameters. -/
def structCodec (param : Codec TypeTag) : Codec StructTag :=
  (Address.codec.pair (Identifier.codec.pair (Identifier.codec.pair (Codec.vec param)))).map
    (fun (a, m, n, ps) => ⟨a, m, n, ps⟩) fun s => (s.address, s.module, s.name, s.params)

/-- Types read with a number of levels left. -/
def TypeTag.codecAt (levels : Nat) : Codec TypeTag := ⟨TypeTag.encode, decodeTypeTag levels⟩

/-- Structs read with a number of levels left. -/
def StructTag.codecAt (levels : Nat) : Codec StructTag := ⟨StructTag.encode, decodeStructTag levels⟩

theorem encodeMany_encode (ps : List TypeTag) :
    Codec.encodeMany TypeTag.encode ps = encodeParams ps := by
  induction ps with
  | nil => rw [Codec.encodeMany, encodeParams]
  | cons p ps ih => rw [Codec.encodeMany, encodeParams, ih]

theorem encode_structCodec (levels : Nat) (s : StructTag) :
    (structCodec (TypeTag.codecAt levels)).encode s = s.encode := by
  show Address.codec.encode s.address ++ (Identifier.codec.encode s.module ++
    (Identifier.codec.encode s.name ++ (encodeLength s.params.length ++
      Codec.encodeMany TypeTag.encode s.params))) = _
  rw [encodeMany_encode, StructTag.encode, encodePath, Encoding.append_assoc,
    Encoding.append_assoc]

theorem decode_structCodec (param : Codec TypeTag) :
    (structCodec param).decode = decodeStructWith param.decode := by
  simp [structCodec, decodeStructWith, Codec.map, Codec.pair, Codec.vec]

/-- A struct with `levels` left has one less for its parameters. -/
theorem decodeStructTag_eq (levels : Nat) :
    decodeStructTag levels = decodeStructWith (decodeTypeTag (levels - 1)) := by
  cases levels with
  | zero => rw [decodeStructTag, decodeTypeTag]
  | succ levels => rw [decodeStructTag, Nat.add_sub_cancel]

theorem StructTag.codecAt_eq (levels : Nat) :
    StructTag.codecAt levels = structCodec (TypeTag.codecAt (levels - 1)) := by
  have writer : StructTag.encode = (structCodec (TypeTag.codecAt (levels - 1))).encode := by
    funext s
    rw [encode_structCodec]
  have reader : decodeStructTag levels = (structCodec (TypeTag.codecAt (levels - 1))).decode := by
    rw [decode_structCodec, decodeStructTag_eq]
    rfl
  rw [StructTag.codecAt, writer, reader]

theorem encode_struct (s : StructTag) : s.toTypeTag.encode = encodeVariant 7 ++ s.encode := by
  rw [StructTag.toTypeTag, TypeTag.encode, StructTag.encode]

/-! ## Reading back -/

namespace TypeTag

/-- What a reader with `levels` left finds wrong with a type: its weight, if that is not below. -/
def fault (levels : Nat) (t : TypeTag) : Option WireError :=
  if t.weight < levels then none else some tooDeep

theorem fault_eq_none_iff {levels : Nat} {t : TypeTag} :
    t.fault levels = none ↔ t.weight < levels := by
  simp [fault]

theorem fault_vector (levels : Nat) (t : TypeTag) :
    (vector t).fault (levels + 1) = t.fault levels := by
  have same : 1 + t.weight < levels + 1 ↔ t.weight < levels := by omega
  simp only [fault, weight, same]

/-- Parameters stand two levels below their struct, one of them its own. -/
theorem findSome?_fault (levels : Nat) (ps : List TypeTag) :
    ps.findSome? (fault (levels - 1)) =
      if paramsWeight ps < levels + 1 then none else some tooDeep := by
  induction ps with
  | nil => rw [List.findSome?_nil, paramsWeight, if_pos (Nat.succ_pos levels)]
  | cons p ps ih =>
    rw [List.findSome?_cons, ih, paramsWeight, fault]
    by_cases fits : p.weight < levels - 1
    · have same : max (2 + p.weight) (paramsWeight ps) < levels + 1 ↔
          paramsWeight ps < levels + 1 := by omega
      simp only [fits, if_true, same]
    · have deep : ¬ max (2 + p.weight) (paramsWeight ps) < levels + 1 := by omega
      simp only [fits, deep, if_false]

theorem fault_struct (levels : Nat) (s : StructTag) :
    s.toTypeTag.fault (levels + 1) = s.params.findSome? (fault (levels - 1)) := by
  rw [findSome?_fault, StructTag.toTypeTag, fault, weight]

theorem solid (t : TypeTag) {bs : List UInt8} (written : t.encode = .ok bs) : bs ≠ [] := by
  cases t with
  | primitive p =>
    rw [encode] at written
    cases written
    exact Uleb128.encode_ne_nil _
  | vector t =>
    rw [encode] at written
    obtain ⟨u, -, rfl⟩ := encodeVariant_append_eq_ok.mp written
    exact List.append_ne_nil_of_left_ne_nil (Uleb128.encode_ne_nil _) u
  | struct a m n ps =>
    rw [encode] at written
    obtain ⟨u, -, rfl⟩ := encodeVariant_append_eq_ok.mp written
    exact List.append_ne_nil_of_left_ne_nil (Uleb128.encode_ne_nil _) u

end TypeTag

/-- A struct is read back, or has its fault, if that holds of its parameters. -/
theorem StructTag.reads_codecAt {levels : Nat}
    (h : (TypeTag.codecAt (levels - 1)).Reads (TypeTag.fault (levels - 1))) :
    (StructTag.codecAt levels).Reads fun s => s.toTypeTag.fault (levels + 1) := by
  have params := h.vec fun t _ written => TypeTag.solid t written
  have parts := Codec.Reads.pair faithful_address
    (Codec.Reads.pair faithful_identifier (Codec.Reads.pair faithful_identifier params))
  have whole : (structCodec (TypeTag.codecAt (levels - 1))).Reads fun s =>
      s.params.findSome? (TypeTag.fault (levels - 1)) := parts.map fun _ => rfl
  rw [StructTag.codecAt_eq]
  simp only [TypeTag.fault_struct]
  exact whole

theorem Primitive.ofRank?_rank (p : Primitive) : Primitive.ofRank? p.rank = some p := by
  cases p <;> rfl

theorem Primitive.rank_of_ofRank? {n : Nat} {p : Primitive} (h : Primitive.ofRank? n = some p) :
    p.rank = n := by
  unfold Primitive.ofRank? at h
  split at h
  all_goals cases h
  all_goals rfl

/-- With `levels` left exactly the types of a weight below that are read; the others are refused as
too deep. -/
theorem TypeTag.reads_codecAt (levels : Nat) :
    (TypeTag.codecAt levels).Reads (TypeTag.fault levels) := by
  induction levels using Nat.strongRecOn with
  | ind levels ih =>
    intro t bs c₁ c₃ written span
    show (decodeTypeTag levels).Answers c₁ (t.fault levels) t c₃
    cases levels with
    | zero =>
      refine ⟨c₁, ?_⟩
      rw [decodeTypeTag]
      rfl
    | succ levels =>
      rw [decodeTypeTag]
      cases t with
      | primitive p =>
        have shallow : (primitive p).fault (levels + 1) = none := by
          rw [fault_eq_none_iff, weight]
          exact Nat.succ_pos levels
        have small : (UInt32.ofNat p.rank).toNat = p.rank := by cases p <;> rfl
        have other : p.rank ≠ 6 ∧ p.rank ≠ 7 := by cases p <;> decide
        change TypeTag.encode _ = _ at written
        rw [encode] at written
        cases written
        have index := decodeVariant_of_spans span
        rw [shallow, Decoder.Answers, Decoder.bind_of_ok index, small, if_neg other.1,
          if_neg other.2, Primitive.ofRank?_rank]
        rfl
      | vector t =>
        change TypeTag.encode _ = _ at written
        rw [encode] at written
        obtain ⟨u, c₂, element, index, behind⟩ := variant_of_spans written span
        rw [fault_vector]
        exact index.bind (ih levels (Nat.lt_succ_self levels) element behind).map
      | struct a m n ps =>
        change (StructTag.toTypeTag ⟨a, m, n, ps⟩).encode = _ at written
        rw [encode_struct] at written
        obtain ⟨u, c₂, content, index, behind⟩ := variant_of_spans written span
        have read := StructTag.reads_codecAt (ih (levels - 1) (by omega)) content behind
        exact index.bind read.map
/-! ## One form -/

theorem StructTag.canonical_codecAt {levels : Nat}
    (h : (TypeTag.codecAt (levels - 1)).Canonical) : (StructTag.codecAt levels).Canonical := by
  rw [StructTag.codecAt_eq]
  exact (canonical_address.pair (canonical_identifier.pair (canonical_identifier.pair h.vec))).map
    fun _ => rfl

/-- A reader of any number of levels accepts only what is written. -/
theorem TypeTag.canonical_codecAt (levels : Nat) : (TypeTag.codecAt levels).Canonical := by
  induction levels using Nat.strongRecOn with
  | ind levels ih =>
    intro t c₁ c₃ read
    change decodeTypeTag levels c₁ = _ at read
    show ∃ bs, t.encode = .ok bs ∧ c₁.Spans bs c₃
    cases levels with
    | zero =>
      rw [decodeTypeTag] at read
      exact absurd read Decoder.fail_eq_ok
    | succ levels =>
      rw [decodeTypeTag] at read
      obtain ⟨index, c₂, first, rest⟩ := Decoder.bind_eq_ok.mp read
      have before := spans_of_decodeVariant first
      split at rest
      · rename_i vector
        subst vector
        have below := ih levels (Nat.lt_succ_self levels)
        obtain ⟨element, bs, rfl, written, span⟩ := below.variant before rest
        refine ⟨bs, ?_, span⟩
        rw [encode]
        exact written
      · split at rest
        · rename_i struct
          subst struct
          have below := StructTag.canonical_codecAt (ih (levels - 1) (by omega))
          obtain ⟨s, bs, rfl, written, span⟩ := below.variant before rest
          refine ⟨bs, ?_, span⟩
          rw [encode_struct]
          exact written
        · rcases found : Primitive.ofRank? index with _ | p
          · rw [found] at rest
            exact absurd rest Decoder.fail_eq_ok
          · rw [found] at rest
            obtain ⟨rfl, rfl⟩ := Decoder.pure_eq_ok.mp rest
            refine ⟨_, ?_, before⟩
            rw [encode, Primitive.rank_of_ofRank? found]
            rfl

/-- No beginning of bytes is that of two types, however deep. -/
theorem TypeTag.prefixFree : PrefixFree TypeTag.encode := by
  intro a b s t r r' ha hb e
  -- a reader with levels for both types reads both
  have deepA : a.fault (max a.weight b.weight + 1) = none := by
    rw [fault_eq_none_iff]
    omega
  have deepB : b.fault (max a.weight b.weight + 1) = none := by
    rw [fault_eq_none_iff]
    omega
  exact (reads_codecAt _).eq_of_append_eq ha hb e deepA deepB

end MoveWallet.Move
