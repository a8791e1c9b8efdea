/-
# MoveWallet.Proofs.Command.TypedArgument — an argument holds the value that its text denotes

Some arguments are laid out by hand, others are written by the codec of their type.  Both give the
bytes that this codec writes (`encode_uint`, `encode_address`, `ofValue_eq_ok`), so the value is read
back by the law of the codec.  The value of an argument begins behind the first colon, and the names
of types have none (`parse_typed`).
-/
import MoveWallet.Command.TypedArgument
import MoveWallet.Proofs.Account.ObjectForms
import MoveWallet.Proofs.Account.Wire
import MoveWallet.Proofs.Text.Numeral

namespace MoveWallet.Move.Argument

set_option autoImplicit false

open MoveWallet.Account
open MoveWallet.Wire

variable {α : Type} {c : Codec α} {value : α} {a : Argument}

/-! ## Bytes of arguments -/

theorem encode_uint (w : Width) (n : BitVec w.bits) :
    (Codec.uint w).encode n = .ok (uint w n).bytes := rfl

theorem encode_address (a : Address) : Address.codec.encode a = .ok (address a).bytes := rfl

/-- An argument that a codec writes has the bytes that the codec writes. -/
theorem ofValue_eq_ok : ofValue c value = .ok a ↔ c.encode value = .ok a.bytes := by
  obtain ⟨bs⟩ := a
  rw [ofValue]
  rcases c.encode value with e | written
  · simp [Except.map]
  · simp [Except.map]

theorem exists_ofValue : (∃ a, ofValue c value = .ok a) ↔ c.Writes value := by
  constructor
  · rintro ⟨a, written⟩
    exact ⟨a.bytes, ofValue_eq_ok.mp written⟩
  · rintro ⟨bs, written⟩
    exact ⟨⟨bs⟩, ofValue_eq_ok.mpr written⟩

end MoveWallet.Move.Argument

namespace MoveWallet.Command

set_option autoImplicit false

open MoveWallet.Account
open MoveWallet.Move
open MoveWallet.Text
open MoveWallet.Text.Separator
open MoveWallet.Wire

theorem ArgumentError.lift_eq_ok {α ε : Type} {wrap : ε → ArgumentError} {x : Except ε α} {a : α} :
    lift wrap x = .ok a ↔ x = .ok a := by
  rcases x with e | b
  · simp [lift]
  · simp [lift]

namespace TypedArgument

open ArgumentError (lift_eq_ok)

variable {α : Type} {c : Codec α} {value : α} {wrap : WireError → ArgumentError}

/-! ## The name of the type -/

/-- The name of the type of numbers of a width. -/
def uintName : Width → String
  | .w8 => "u8"
  | .w16 => "u16"
  | .w32 => "u32"
  | .w64 => "u64"
  | .w128 => "u128"
  | .w256 => "u256"

theorem parseAs_uintName (w : Width) (value : String) :
    parseAs (uintName w) value = parseUint w value := by
  cases w <;> rfl

theorem colon_not_mem_uintName (w : Width) : ':' ∉ (uintName w).toList := by
  cases w <;> decide

/-- What stands behind the first colon is the value, whatever colons it has itself. -/
theorem parse_typed (type value : String) (absent : ':' ∉ type.toList) :
    parse (type ++ ":" ++ value) = parseAs type value := by
  have whole : (type ++ ":" ++ value).toList = type.toList ++ ':' :: [] ++ value.toList := by
    rw [String.toList_append, String.toList_append]
    rfl
  rw [parse, whole, splitFirst?_append value.toList absent]
  simp only [String.ofList_toList]

/-! ## Values -/

/-- Digits are an argument if their number fits the width, and otherwise too large. -/
theorem parse_digits (w : Width) {digits : String} (nonempty : digits.toList ≠ [])
    (all : digits.toList.all Numeral.isDigit = true) :
    parse (uintName w ++ ":" ++ digits) =
      if Numeral.number digits.toList < 2 ^ w.bits then
        .ok (Argument.uint w (BitVec.ofNat w.bits (Numeral.number digits.toList)))
      else .error (.number .tooLarge) := by
  have size : w.size = 2 ^ w.bits := Nat.one_shiftLeft w.bits
  rw [parse_typed _ digits (colon_not_mem_uintName w), parseAs_uintName, parseUint,
    Numeral.readBelow_of_digits nonempty all (by rw [size]; exact Nat.two_pow_pos _), size]
  split_ifs with fits
  · rfl
  · rfl

/-- A number that fits a width is held in as many bytes and read back unchanged. -/
theorem decodeExact_uint (w : Width) {n : Nat} (fits : n < 2 ^ w.bits) :
    let a := Argument.uint w (BitVec.ofNat w.bits n)
    a.bytes.length = w.bits / 8 ∧
      ∃ m, (Codec.uint w).decodeExact a.bytes = .ok m ∧ m.toNat = n := by
  refine ⟨?_, BitVec.ofNat w.bits n, ?_, ?_⟩
  · have bytes : w.bytes = w.bits / 8 := by cases w <;> rfl
    rw [← bytes]
    exact Bytes.Endian.length_littleEndian w.bytes _
  · exact (Codec.faithful_uint w).decodeExact (Argument.encode_uint w _) rfl
  · rw [BitVec.toNat_ofNat, Nat.mod_eq_of_lt fits]

/-- A value that a codec writes is an argument exactly if the codec can write it. -/
theorem exists_lift_ofValue :
    (∃ a, ArgumentError.lift wrap (Argument.ofValue c value) = .ok a) ↔ c.Writes value := by
  rw [← Argument.exists_ofValue]
  exact exists_congr fun a => lift_eq_ok

/-- A value that is an argument is read back by a faithful codec. -/
theorem decodeExact_of_lift (h : c.Faithful) {a : Argument}
    (made : ArgumentError.lift wrap (Argument.ofValue c value) = .ok a) :
    c.decodeExact a.bytes = .ok value :=
  h.decodeExact (Argument.ofValue_eq_ok.mp (lift_eq_ok.mp made)) rfl

theorem parse_string (value : String) :
    parse ("string:" ++ value) = ArgumentError.lift .codec (Argument.ofValue Codec.text value) :=
  parse_typed "string" value (by decide)

theorem parse_address {text : String} {a : Address} (h : Address.parse text = .ok a) :
    parse ("address:" ++ text) = .ok (Argument.address a) := by
  have typed : parse ("address:" ++ text) = parseAs "address" text :=
    parse_typed "address" text (by decide)
  rw [typed, parseAs, h]
  rfl

theorem parse_objectId {text : String} {id : ObjectId} (h : ObjectId.parse text = .ok id) :
    parse ("object_id:" ++ text) =
      ArgumentError.lift .codec (Argument.ofValue ObjectId.codec id) := by
  have typed : parse ("object_id:" ++ text) = parseAs "object_id" text :=
    parse_typed "object_id" text (by decide)
  rw [typed, parseAs, h]
  rfl

theorem parse_object {text : String} {s : StructTag} (h : StructTag.parse text = .ok s) :
    parse ("object:" ++ text) =
      ArgumentError.lift .codec (Argument.ofValue ObjectId.codec (ObjectId.named s.canonical)) := by
  have typed : parse ("object:" ++ text) = parseAs "object" text :=
    parse_typed "object" text (by decide)
  rw [typed, parseAs, h]
  rfl

/-- An argument holds what its text denotes.  Decimal digits, with any number of zeros in front, are
an argument exactly if their number fits the width, and then it is that number in as many bytes;
otherwise they are too large.  Text is an argument exactly if its length can be written, and an
address and the object of a struct type always are.  So is an object id of fewer than 2^32 addresses,
which no shorter text than 2^38 characters has.  Each is read back by the codec of its type. -/
theorem arguments_hold_their_values :
    (∀ (w : Width) (digits : String), digits ≠ "" → digits.toList.all Numeral.isDigit = true →
      ((∃ a, parse (uintName w ++ ":" ++ digits) = .ok a) ↔
        Numeral.number digits.toList < 2 ^ w.bits) ∧
      (∀ a, parse (uintName w ++ ":" ++ digits) = .ok a → a.bytes.length = w.bits / 8 ∧
        ∃ n, (Codec.uint w).decodeExact a.bytes = .ok n ∧
          n.toNat = Numeral.number digits.toList) ∧
      (2 ^ w.bits ≤ Numeral.number digits.toList →
        parse (uintName w ++ ":" ++ digits) = .error (.number .tooLarge))) ∧
    (∀ text : String,
      ((∃ a, parse ("string:" ++ text) = .ok a) ↔ Utf8.byteLength text ≤ 2 ^ 32 - 1) ∧
      ∀ a, parse ("string:" ++ text) = .ok a → Codec.text.decodeExact a.bytes = .ok text) ∧
    (∀ (text : String) (address : Address), Address.parse text = .ok address →
      ∃ a, parse ("address:" ++ text) = .ok a ∧
        Address.codec.decodeExact a.bytes = .ok address) ∧
    (∀ (text : String) (id : ObjectId), ObjectId.parse text = .ok id →
      ((∃ a, parse ("object_id:" ++ text) = .ok a) ↔ id.path.length < 2 ^ 32) ∧
      (text.toList.length < 2 ^ 38 → id.path.length < 2 ^ 32) ∧
      ∀ a, parse ("object_id:" ++ text) = .ok a → ObjectId.codec.decodeExact a.bytes = .ok id) ∧
    (∀ (text : String) (s : StructTag), StructTag.parse text = .ok s →
      ∃ a, parse ("object:" ++ text) = .ok a ∧
        ObjectId.codec.decodeExact a.bytes = .ok (ObjectId.named s.canonical)) := by
  refine ⟨?_, ?_, ?_, ?_, ?_⟩
  · intro w digits nonempty all
    have characters : digits.toList ≠ [] := fun empty =>
      nonempty (String.toList_eq_nil_iff.mp empty)
    rw [parse_digits w characters all]
    by_cases fits : Numeral.number digits.toList < 2 ^ w.bits
    · rw [if_pos fits]
      refine ⟨iff_of_true ⟨_, rfl⟩ fits, ?_, fun large => absurd fits (Nat.not_lt.mpr large)⟩
      rintro a made
      cases made
      exact decodeExact_uint w fits
    · rw [if_neg fits]
      refine ⟨iff_of_false ?_ fits, ?_, fun _ => rfl⟩
      · rintro ⟨a, made⟩
        cases made
      · intro a made
        cases made
  · intro text
    rw [parse_string, exists_lift_ofValue, Codec.writes_text]
    exact ⟨Nat.lt_iff_le_pred (by decide),
      fun a made => decodeExact_of_lift Codec.faithful_text made⟩
  · intro text address read
    have written := Argument.encode_address address
    exact ⟨_, parse_address read, faithful_address.decodeExact written rfl⟩
  · intro text id read
    rw [parse_objectId read, exists_lift_ofValue]
    refine ⟨writes_objectId, ?_, fun a made => decodeExact_of_lift faithful_objectId made⟩
    intro short
    have digits := ObjectId.length_of_parse read
    omega
  · intro text s read
    rw [parse_object read]
    have alone : (ObjectId.named s.canonical).path.length = 1 := rfl
    have short : (ObjectId.named s.canonical).path.length < 2 ^ 32 := by omega
    obtain ⟨a, made⟩ := exists_lift_ofValue.mpr (writes_objectId.mpr short)
    exact ⟨a, made, decodeExact_of_lift faithful_objectId made⟩

/-- Zeros in front do not count, the first number that does not fit is refused rather than wrapped,
and a text keeps its colons. -/
theorem arguments_hold_their_values_at_bounds :
    (∃ a, parse "u8:000255" = .ok a ∧ a.bytes.length = 1 ∧
      ∃ n, (Codec.uint .w8).decodeExact a.bytes = .ok n ∧ n.toNat = 255) ∧
    parse "u8:256" = .error (.number .tooLarge) ∧
    (∃ a, parse ("string:" ++ "a:β") = .ok a ∧ Codec.text.decodeExact a.bytes = .ok "a:β") ∧
    (∃ a, parse ("address:" ++ Address.toHexLong (.ofNat 3)) = .ok a ∧
      Address.codec.decodeExact a.bytes = .ok (.ofNat 3)) ∧
    (∃ a, parse ("object_id:" ++ (ObjectId.ofAddress .zero).toText) = .ok a ∧
      ObjectId.codec.decodeExact a.bytes = .ok (.ofAddress .zero)) ∧
    ∃ s, StructTag.parse "0x3::a::B" = .ok s ∧ ∃ a, parse ("object:" ++ "0x3::a::B") = .ok a ∧
      ObjectId.codec.decodeExact a.bytes = .ok (.named s.canonical) := by
  obtain ⟨numbers, texts, addresses, ids, objects⟩ := arguments_hold_their_values
  refine ⟨?_, ?_, ?_, ?_, ?_, ?_⟩
  · obtain ⟨fits, value, -⟩ := numbers .w8 "000255" (by decide) (by decide)
    have typed : uintName .w8 ++ ":" ++ "000255" = "u8:000255" := by decide
    rw [typed] at fits value
    obtain ⟨a, made⟩ := fits.mpr (by decide)
    exact ⟨a, made, value a made⟩
  · have typed : uintName .w8 ++ ":" ++ "256" = "u8:256" := by decide
    rw [← typed]
    exact (numbers .w8 "256" (by decide) (by decide)).2.2 (by decide)
  · obtain ⟨short, value⟩ := texts "a:β"
    obtain ⟨a, made⟩ := short.mpr (by decide)
    exact ⟨a, made, value a made⟩
  · exact addresses _ _ (Address.parse_toHexLong _)
  · obtain ⟨short, -, value⟩ := ids _ _ (ObjectId.parse_toText (.ofAddress .zero))
    obtain ⟨a, made⟩ := short.mpr (by decide)
    exact ⟨a, made, value a made⟩
  · have read : StructTag.parse "0x3::a::B" =
        .ok ⟨.ofNat 3, ⟨"a", by decide⟩, ⟨"B", by decide⟩, []⟩ := by decide +kernel
    exact ⟨_, read, objects _ _ read⟩

end TypedArgument

end MoveWallet.Command
