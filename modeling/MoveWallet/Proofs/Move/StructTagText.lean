/-
# MoveWallet.Proofs.Move.StructTagText — a text names one struct type

A reader with enough levels reads any type from its text, in whichever form its addresses are
written, so two types with one text are one type, however deep they are
(`TypeTag.eq_of_render_eq`).  Named objects are keyed by a digest of the full text: two types can
share an object only if they are the same or their texts collide.

Read alone, a struct may have parameters that weigh up to 15, one more than inside a type: it stands
at the outermost level itself (`StructTag.parse_render_iff`).
-/
import MoveWallet.Move.Argument
import MoveWallet.Proofs.Move.TypeTagText

namespace MoveWallet.Move

set_option autoImplicit false

open MoveWallet.Account
open MoveWallet.Digest
open MoveWallet.Text
open MoveWallet.Text.Blank

variable {form : AddressForm}

/-! ## One text, one type -/

theorem TypeTag.eq_of_render_eq {s t : TypeTag} (h : s.render form = t.render form) : s = t := by
  -- a reader with levels for both types reads both
  have left : parseTypeTag (max s.weight t.weight + 1) (s.render form) = .ok s := by
    apply parseTypeTag_render s _ _ (trim_of_tight (tight_render s))
    omega
  have right : parseTypeTag (max s.weight t.weight + 1) (t.render form) = .ok t := by
    apply parseTypeTag_render t _ _ (trim_of_tight (tight_render t))
    omega
  rw [h, right] at left
  cases left
  rfl

theorem StructTag.toTypeTag_inj {s t : StructTag} : s.toTypeTag = t.toTypeTag ↔ s = t := by
  constructor
  · intro h
    cases s
    cases t
    simpa [StructTag.toTypeTag] using h
  · intro h
    rw [h]

theorem StructTag.eq_of_canonical_eq {s t : StructTag} (h : s.canonical = t.canonical) : s = t := by
  have rendered : s.toTypeTag.render .full = t.toTypeTag.render .full := String.ofList_injective h
  exact StructTag.toTypeTag_inj.mp (TypeTag.eq_of_render_eq rendered)

theorem StructTag.eq_of_toText_eq {s t : StructTag} (h : s.toText = t.toText) : s = t := by
  have rendered : s.toTypeTag.render .short = t.toTypeTag.render .short := String.ofList_injective h
  exact StructTag.toTypeTag_inj.mp (TypeTag.eq_of_render_eq rendered)

/-! ## Named objects -/

/-- An object argument is a path of one address, the digest of the type's full text. -/
theorem Argument.object_eq (s : StructTag) :
    Argument.object s = .ok ⟨1 :: Sha3.sha3 (Utf8.bytes s.canonical)⟩ := by
  have path : ObjectId.codec.encode (ObjectId.named s.canonical) =
      .ok (1 :: (Sha3.sha3 (Utf8.bytes s.canonical) ++ [])) := rfl
  rw [Argument.object, Argument.objectId, Argument.ofValue, path, List.append_nil]
  rfl

/-! ## Reading a struct alone -/

namespace StructTag

/-- A struct is read alone as one whose parameters stand at the second level. -/
theorem parse_eq (text : String) :
    StructTag.parse text = parseStructWith (parseTypeTag maxDepth) (trim text.toList) :=
  congrFun (parseStructTag_eq (maxDepth + 1)) (trim text.toList)

/-- No struct that is read alone has a parameter heavier than 15. -/
theorem weight_le_of_parse {text : String} {s : StructTag} (h : StructTag.parse text = .ok s) :
    ∀ p ∈ s.params, p.weight ≤ 15 := by
  intro p member
  rw [parse_eq] at h
  obtain ⟨part, read⟩ := exists_of_parseStructWith h member
  exact Nat.le_of_lt_succ (weight_lt_of_parseTypeTag read)

/-- A struct is read from its text, in either form, exactly if no parameter is heavier than that. -/
theorem parse_render_iff {s : StructTag} :
    StructTag.parse (String.ofList (s.toTypeTag.render form)) = .ok s ↔
      ∀ p ∈ s.params, p.weight ≤ 15 := by
  constructor
  · exact weight_le_of_parse
  · intro light
    have tight : trim (s.toTypeTag.render form) = s.toTypeTag.render form :=
      trim_of_tight (tight_render s.toTypeTag)
    rw [parse_eq, String.toList_ofList, tight]
    apply parseStructWith_render
    intro p member entry trimmed
    exact parseTypeTag_render p _ _ trimmed (Nat.lt_succ_of_le (light p member))

/-- The texts of a struct type name it alone.  Types with one full text, or with one text as
displayed, are the same; so are types that stand for one object, unless their full texts are
different and have one digest.  The full text is read as the type exactly if no parameter weighs more
than 15. -/
theorem text_determines_type :
    (∀ s t : StructTag, s.canonical = t.canonical → s = t) ∧
    (∀ s t : StructTag, s.toText = t.toText → s = t) ∧
    (∀ s t : StructTag, Argument.object s = Argument.object t →
      s = t ∨ (s.canonical ≠ t.canonical ∧
        Sha3.sha3 (Utf8.bytes s.canonical) = Sha3.sha3 (Utf8.bytes t.canonical))) ∧
    (∀ s : StructTag, StructTag.parse s.canonical = .ok s ↔ ∀ p ∈ s.params, p.weight ≤ 15) := by
  refine ⟨?_, ?_, ?_, ?_⟩
  · intro s t
    exact eq_of_canonical_eq
  · intro s t
    exact eq_of_toText_eq
  · intro s t same
    rw [Argument.object_eq, Argument.object_eq] at same
    by_cases texts : s.canonical = t.canonical
    · exact .inl (eq_of_canonical_eq texts)
    · refine .inr ⟨texts, ?_⟩
      simpa using same
  · intro s
    exact parse_render_iff

/-- `0x2::box::Box` with one parameter. -/
def boxOf (p : TypeTag) : StructTag :=
  ⟨.ofNat 2, ⟨"box", by decide⟩, ⟨"Box", by decide⟩, [p]⟩

/-- Fifteen vectors in a box are read from the full text and sixteen are not.  The texts tell them
apart also beyond that, forty vectors from forty-one, and boxes of different things. -/
theorem text_determines_type_nested :
    StructTag.parse (boxOf (.nest 15 (.primitive .u8))).canonical =
      .ok (boxOf (.nest 15 (.primitive .u8))) ∧
    StructTag.parse (boxOf (.nest 16 (.primitive .u8))).canonical ≠
      .ok (boxOf (.nest 16 (.primitive .u8))) ∧
    (boxOf (.nest 40 (.primitive .u8))).canonical ≠ (boxOf (.nest 41 (.primitive .u8))).canonical ∧
    (boxOf (.primitive .u8)).toText ≠ (boxOf (.primitive .u16)).toText := by
  obtain ⟨canonical, displayed, -, read⟩ := text_determines_type
  refine ⟨?_, ?_, ?_, ?_⟩
  · rw [read]
    decide
  · rw [ne_eq, read]
    decide
  · intro same
    exact absurd (canonical _ _ same) (by decide)
  · intro same
    exact absurd (displayed _ _ same) (by decide)

end StructTag

end MoveWallet.Move
