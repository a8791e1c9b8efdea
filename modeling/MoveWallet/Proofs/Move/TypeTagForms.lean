/-
# MoveWallet.Proofs.Move.TypeTagForms — text and wire accept the same types

Each type has one text and one form in bytes, and the weight of a type decides about both: up to 16
it is read from either, above from neither.  So whatever one reader accepts the other does, once it
is written the other way.  Writing bytes can fail for a name or a list that is too long to be
counted, but a text that is itself short enough has no such parts (`TypeTag.writes_of_parse`).
-/
import MoveWallet.Proofs.Move.TypeTagText

namespace MoveWallet.Move

set_option autoImplicit false

open MoveWallet.Account
open MoveWallet.Text
open MoveWallet.Text.Blank
open MoveWallet.Text.Separator
open MoveWallet.Wire

/-! ## Types that can be written -/

theorem writes_identifier {i : Identifier} (short : i.text.toList.length < UInt32.size) :
    Identifier.codec.Writes i := by
  have size : (Utf8.bytes i.text).length = i.text.toList.length := (isWord_text i).length_encode
  exact Codec.writes_refine.mpr (Codec.writes_text.mpr (by rw [size]; exact short))

theorem exists_variant_append {index : UInt32} {x : Encoding} (h : ∃ bs, x = .ok bs) :
    ∃ bs, encodeVariant index ++ x = .ok bs := by
  obtain ⟨bs, written⟩ := h
  exact ⟨_, encodeVariant_append_eq_ok.mpr ⟨bs, written, rfl⟩⟩

theorem writes_vector {t : TypeTag} (element : TypeTag.codec.Writes t) :
    TypeTag.codec.Writes (.vector t) := by
  show ∃ bs, (TypeTag.vector t).encode = .ok bs
  rw [TypeTag.encode]
  exact exists_variant_append element

/-- A struct can be written if its names and its list are not too long and its parameters can. -/
theorem writes_struct {s : StructTag} (module : s.module.text.toList.length < UInt32.size)
    (name : s.name.text.toList.length < UInt32.size) (count : s.params.length < UInt32.size)
    (params : ∀ p ∈ s.params, TypeTag.codec.Writes p) : TypeTag.codec.Writes s.toTypeTag := by
  have address : Address.codec.Writes s.address := ⟨_, rfl⟩
  have list : (Codec.vec (TypeTag.codecAt 0)).Writes s.params := Codec.writes_vec count params
  have parts : (structCodec (TypeTag.codecAt 0)).Writes s :=
    Codec.writes_map.mpr (Codec.writes_pair.mpr ⟨address, Codec.writes_pair.mpr
      ⟨writes_identifier module, Codec.writes_pair.mpr ⟨writes_identifier name, list⟩⟩⟩)
  show ∃ bs, s.toTypeTag.encode = .ok bs
  rw [encode_struct, ← encode_structCodec 0]
  exact exists_variant_append parts

/-! ## Types from short texts -/

theorem text_of_parse {cs : List Char} {i : Identifier}
    (h : Identifier.parse (String.ofList cs) = .ok i) : i.text.toList = cs := by
  unfold Identifier.parse at h
  split at h
  · rename_i j found
    cases h
    rw [text_of_ofText? found, String.toList_ofList]
  · cases h

/-- The names in a path are no longer than the path. -/
theorem length_le_of_parsePath {whole path : List Char} {params : List TypeTag} {s : StructTag}
    (h : parsePath whole path params = .ok s) :
    s.module.text.toList.length ≤ path.length ∧ s.name.text.toList.length ≤ path.length := by
  obtain ⟨-, a, m, n, cut, -, module, name⟩ := parts_of_parsePath h
  have trimmed := length_trim_le path
  have sizes := congrArg List.length (append_of_splitPath? cut)
  simp only [List.length_append] at sizes
  rw [text_of_parse module, text_of_parse name]
  omega

/-- A type that is read from a text too short to hold an overlong part can be written. -/
theorem TypeTag.writes_of_parseTypeTag {levels : Nat} {text : List Char} {t : TypeTag}
    (h : parseTypeTag levels text = .ok t) (short : text.length < UInt32.size) :
    TypeTag.codec.Writes t := by
  -- Each part of a type is read from a part of its text, so it is short if the text is.
  induction levels using Nat.strongRecOn generalizing text t with
  | ind levels ih =>
    have trimmed := length_trim_le text
    obtain ⟨left, ⟨p, rfl⟩ | ⟨inner, element, whole, read, rfl⟩ | ⟨s, read, rfl⟩⟩ :=
      parts_of_parseTypeTag h
    · exact ⟨_, by show (TypeTag.primitive p).encode = _; rw [TypeTag.encode]; rfl⟩
    · rw [whole, List.length_append, List.length_append] at trimmed
      exact writes_vector (ih (levels - 1) (by omega) read (by omega))
    · rcases parts_of_parseStructWith read with bare | ⟨path, inner, parts, whole, cut, found, made⟩
      · obtain ⟨module, name⟩ := length_le_of_parsePath bare
        have none := (parts_of_parsePath bare).1
        refine writes_struct (by omega) (by omega) ?_ ?_
        · rw [none]
          decide
        · rw [none]
          exact fun p member => absurd member List.not_mem_nil
      · obtain ⟨module, name⟩ := length_le_of_parsePath made
        obtain ⟨count, sizes⟩ := (joinTo_of_splitParams? cut).length_le
        have number := length_of_mapM found
        simp only [whole, List.length_append, List.length_singleton] at trimmed
        refine writes_struct (by omega) (by omega) (by omega) ?_
        intro p member
        obtain ⟨part, among, answer⟩ := exists_of_mapM found member
        have size := sizes part among
        exact ih (levels - 2) (by omega) answer (by omega)

/-! ## The two forms -/

namespace TypeTag

theorem parse_toText_iff {t : TypeTag} : TypeTag.parse t.toText = .ok t ↔ t.weight ≤ maxDepth := by
  constructor
  · exact weight_le_of_parse
  · intro fits
    have tight : trim (t.render .short) = t.render .short := trim_of_tight (tight_render t)
    rw [TypeTag.parse, toText, String.toList_ofList]
    exact parseTypeTag_render t _ _ tight (Nat.lt_succ_of_le fits)

theorem fault_eq_none_iff_le {t : TypeTag} : t.fault (maxDepth + 1) = none ↔ t.weight ≤ maxDepth :=
  fault_eq_none_iff.trans Nat.lt_succ_iff

theorem decodeExact_iff {t : TypeTag} {bs : List UInt8} (written : TypeTag.codec.encode t = .ok bs) :
    TypeTag.codec.decodeExact bs = .ok t ↔ t.weight ≤ maxDepth := by
  have reads : TypeTag.codec.Reads (fault (maxDepth + 1)) := reads_codecAt (maxDepth + 1)
  rw [← fault_eq_none_iff_le]
  rcases f : t.fault (maxDepth + 1) with _ | e
  · exact iff_of_true (reads.decodeExact written f) rfl
  · have refused := reads.decodeExact_error written f
    rw [refused]
    simp

/-- Whatever is decoded, at any place of a buffer, has a weight up to which types are read. -/
theorem weight_le_of_decode {c₁ c₂ : Cursor} {t : TypeTag}
    (h : TypeTag.codec.decode c₁ = (.ok t, c₂)) :
    t.weight ≤ maxDepth ∧ ∃ bs, TypeTag.codec.encode t = .ok bs := by
  obtain ⟨bs, written, span⟩ := canonical_codecAt (maxDepth + 1) h
  have read := reads_codecAt (maxDepth + 1) written span
  refine ⟨?_, bs, written⟩
  rw [← fault_eq_none_iff_le]
  rcases f : t.fault (maxDepth + 1) with _ | e
  · rfl
  · rw [f] at read
    obtain ⟨c₃, refused⟩ := read
    change TypeTag.codec.decode c₁ = _ at refused
    rw [h] at refused
    cases refused

/-- Text and wire accept the same types.  A type is read from its text exactly if its weight is at
most 16, and then, and only then, from its bytes, if it has any.  Whatever is read from a text or
decoded anywhere in a buffer has no greater weight, so it is read again from its own text and its own
bytes; it has bytes if it was decoded, or read from a text of fewer than 2^32 characters. -/
theorem text_and_wire_agree :
    (∀ t : TypeTag, (t.weight ≤ 16 ↔ TypeTag.parse t.toText = .ok t) ∧
      ∀ bs, TypeTag.codec.encode t = .ok bs →
        (t.weight ≤ 16 ↔ TypeTag.codec.decodeExact bs = .ok t)) ∧
    (∀ (text : String) (t : TypeTag), TypeTag.parse text = .ok t →
      t.weight ≤ 16 ∧ TypeTag.parse t.toText = .ok t ∧
      (∀ bs, TypeTag.codec.encode t = .ok bs → TypeTag.codec.decodeExact bs = .ok t) ∧
      (text.length < 2 ^ 32 → ∃ bs, TypeTag.codec.encode t = .ok bs)) ∧
    (∀ (c₁ c₂ : Cursor) (t : TypeTag), TypeTag.codec.decode c₁ = (.ok t, c₂) →
      t.weight ≤ 16 ∧ TypeTag.parse t.toText = .ok t ∧
      ∃ bs, TypeTag.codec.encode t = .ok bs ∧ TypeTag.codec.decodeExact bs = .ok t) := by
  refine ⟨?_, ?_, ?_⟩
  · intro t
    exact ⟨parse_toText_iff.symm, fun bs written => (decodeExact_iff written).symm⟩
  · intro text t read
    have fits := weight_le_of_parse read
    refine ⟨fits, parse_toText_iff.mpr fits, fun bs written => (decodeExact_iff written).mpr fits, ?_⟩
    intro short
    exact writes_of_parseTypeTag read short
  · intro c₁ c₂ t decoded
    obtain ⟨fits, bs, written⟩ := weight_le_of_decode decoded
    exact ⟨fits, parse_toText_iff.mpr fits, bs, written, (decodeExact_iff written).mpr fits⟩

/-- `vector<0x3::coin::Coin<u8, vector<bool>>>`. -/
def coins : TypeTag :=
  vector (.struct (.ofNat 3) ⟨"coin", by decide⟩ ⟨"Coin", by decide⟩
    [.primitive .u8, .vector (.primitive .bool)])

/-- A vector of structs with parameters is read from either form; 17 vectors are read from neither;
a word with blanks round it is read and can be sent. -/
theorem text_and_wire_agree_nested :
    TypeTag.parse coins.toText = .ok coins ∧
    TypeTag.codec.decodeExact ([6, 7] ++ List.replicate 31 0 ++ [3, 4, 99, 111, 105, 110,
      4, 67, 111, 105, 110, 2, 1, 6, 0]) = .ok coins ∧
    TypeTag.parse (nest 17 (.primitive .bool)).toText ≠ .ok (nest 17 (.primitive .bool)) ∧
    TypeTag.codec.decodeExact (List.replicate 17 6 ++ [0]) ≠ .ok (nest 17 (.primitive .bool)) ∧
    (∃ bs, TypeTag.codec.encode (.primitive .u8) = .ok bs) ∧
    TypeTag.parse (primitive .u8).toText = .ok (.primitive .u8) := by
  obtain ⟨agree, ofText, ofBytes⟩ := text_and_wire_agree
  have deep : ¬ (nest 17 (.primitive .bool)).weight ≤ 16 := by decide
  have word : TypeTag.parse " u8 " = .ok (.primitive .u8) := by decide +kernel
  have index : TypeTag.codec.decode (Cursor.start [1]) = (.ok (.primitive .u8), ⟨1, []⟩) := rfl
  have shallow : coins.weight ≤ 16 := by decide
  refine ⟨(agree _).1.mp shallow, ((agree _).2 _ rfl).mp shallow, ?_, ?_, ?_, ?_⟩
  · rw [ne_eq, ← (agree _).1]
    exact deep
  · rw [ne_eq, ← (agree _).2 _ rfl]
    exact deep
  · exact (ofText " u8 " _ word).2.2.2 (by decide)
  · exact (ofBytes _ _ _ index).2.1

end TypeTag

end MoveWallet.Move
