/-
# MoveWallet.Proofs.Account.ObjectForms — object ids are read back from their bytes and their text

The bytes of an object id are those of its addresses, 32 each, with no number in front and nothing
between them, so their length alone says how many addresses there are.  Bytes are read as the object
id whose bytes they are (`ofBytes_eq_ok_iff`), which is there for every positive number of blocks
(`exists_of_blocks`).  Text is read as the id whose bytes it is the digits of
(`parse_eq_ok_iff`).
-/
import MoveWallet.Account.ObjectId
import MoveWallet.Proofs.Account.AddressForms

namespace MoveWallet.Account

set_option autoImplicit false

open MoveWallet.Bytes.Endian
open MoveWallet.Text
open MoveWallet.Text.Separator
open MoveWallet.Wire

/-! ## Hex with or without a marker -/

@[simp] theorem withoutMarker_marked (digits : String) :
    withoutMarker ("0x" ++ digits) = digits := by
  have marked : ("0x" ++ digits).toList = '0' :: 'x' :: digits.toList := String.toList_append
  have dropped : dropPrefix? ['0', 'x'] ('0' :: 'x' :: digits.toList) = some digits.toList := rfl
  rw [withoutMarker, marked, dropped]
  exact String.ofList_toList

/-- Text that is, without the marker, digits has at most one marker in front of them. -/
theorem toList_withoutMarker {text : String} {ds : List Char} (digits : ds.all Hex.isDigit = true) :
    (withoutMarker text).toList = ds ↔ text.toList = ds ∨ text.toList = '0' :: 'x' :: ds := by
  constructor
  · rintro rfl
    unfold withoutMarker
    split
    · rename_i rest dropped
      right
      rw [String.toList_ofList]
      exact dropPrefix?_eq_some.mp dropped
    · exact .inl rfl
  · rintro (same | marked)
    · have absent : 'x' ∉ text.toList := by
        intro member
        rw [same] at member
        exact absurd (List.all_eq_true.mp digits 'x' member) (by decide)
      rw [withoutMarker, dropPrefix?_eq_none (c := 'x') (by decide) absent, same]
    · have dropped : dropPrefix? ['0', 'x'] text.toList = some ds := dropPrefix?_eq_some.mpr marked
      rw [withoutMarker, dropped, String.toList_ofList]

theorem hexBytes_eq_ok_iff {text : String} {bs : List UInt8} :
    hexBytes text = .ok bs ↔ Hex.decode (withoutMarker text) = .ok bs := by
  rw [hexBytes]
  rcases Hex.decode (withoutMarker text) with e | cs
  · simp
  · simp

namespace ObjectId

variable {id : ObjectId} {bs : List UInt8} {text : String}

/-! ## Bytes -/

/-- The bytes of addresses one after another. -/
def pathBytes (path : List Address) : List UInt8 := path.flatMap fun a => a.bytes.toList

theorem length_pathBytes (path : List Address) : (pathBytes path).length = 32 * path.length :=
  length_flatMap_of_size fun a _ => a.bytes.length_toList

/-- Every number of blocks is the bytes of as many addresses. -/
theorem exists_of_blocks {count : Nat} (size : bs.length = 32 * count) :
    ∃ path, path.length = count ∧ pathBytes path = bs := by
  induction count generalizing bs with
  | zero => exact ⟨[], rfl, (List.eq_nil_of_length_eq_zero size).symm⟩
  | succ count ih =>
    have front : (bs.take 32).length = 32 := by
      rw [List.length_take]
      omega
    have behind : (bs.drop 32).length = 32 * count := by
      rw [List.length_drop]
      omega
    obtain ⟨path, length, rest⟩ := ih behind
    refine ⟨⟨⟨bs.take 32, front⟩⟩ :: path, congrArg (· + 1) length, ?_⟩
    rw [pathBytes, List.flatMap_cons, ← pathBytes, rest, List.take_append_drop]

/-- An object id is read back from its bytes. -/
theorem ofBytes_toBytes (id : ObjectId) : ofBytes id.toBytes = .ok id := by
  have size : id.toBytes.length = 32 * id.path.length := length_pathBytes id.path
  have positive : 0 < id.path.length := List.length_pos_iff.mpr id.path_ne_nil
  have nonempty : id.toBytes ≠ [] := List.length_pos_iff.mp (by omega)
  have even : id.toBytes.length % 32 = 0 := by omega
  have cut : chunks 32 id.toBytes = id.path.map fun a => a.bytes.toList :=
    chunks_flatMap (by decide) fun a _ => a.bytes.length_toList
  have path : (chunks 32 id.toBytes).mapM Address.ofBytes = .ok id.path := by
    rw [cut]
    exact mapM_map_eq_ok fun a _ => Address.ofBytes_eq_ok_iff.mpr rfl
  rw [ofBytes, if_neg (by simp [nonempty, even]), path, ok_bind, ofPath, ofPath?,
    dif_pos id.path_ne_nil]

/-- Bytes are those of an object id exactly if they are blocks, and at least one. -/
theorem exists_toBytes_iff :
    (∃ id : ObjectId, id.toBytes = bs) ↔ ∃ count, 1 ≤ count ∧ bs.length = 32 * count := by
  constructor
  · rintro ⟨id, rfl⟩
    exact ⟨id.path.length, List.length_pos_iff.mpr id.path_ne_nil, length_pathBytes id.path⟩
  · rintro ⟨count, positive, size⟩
    obtain ⟨path, length, bytes⟩ := exists_of_blocks size
    exact ⟨⟨path, List.length_pos_iff.mp (by omega)⟩, bytes⟩

/-- Bytes are read as the object id whose bytes they are, and no others are read. -/
theorem ofBytes_eq_ok_iff : ofBytes bs = .ok id ↔ id.toBytes = bs := by
  constructor
  · intro h
    have guard : ¬ (bs.isEmpty || bs.length % 32 ≠ 0) = true := by
      intro refused
      rw [ofBytes, if_pos refused] at h
      cases h
    obtain ⟨nonempty, even⟩ : bs ≠ [] ∧ bs.length % 32 = 0 := by simpa using guard
    have positive : 0 < bs.length := List.length_pos_iff.mpr nonempty
    have blocks : 1 ≤ bs.length / 32 ∧ bs.length = 32 * (bs.length / 32) := by omega
    obtain ⟨other, rfl⟩ := exists_toBytes_iff.mpr ⟨_, blocks⟩
    rw [ofBytes_toBytes] at h
    rw [Except.ok.inj h]
  · rintro rfl
    exact ofBytes_toBytes id

/-! ## Text -/

/-- Text is read as the object id whose bytes it is the digits of, in either case, with a marker in
front or without. -/
theorem parse_eq_ok_iff :
    parse text = .ok id ↔
      ∃ ds, (text.toList = ds ∨ text.toList = '0' :: 'x' :: ds) ∧ ds.all Hex.isDigit = true ∧
        ds.map Char.toLower = Hex.encodeChars id.toBytes := by
  have read : parse text = .ok id ↔ Hex.decode (withoutMarker text) = .ok id.toBytes := by
    rw [parse, bind_eq_ok]
    constructor
    · rintro ⟨bs, digits, made⟩
      rw [ofBytes_eq_ok_iff.mp made]
      exact hexBytes_eq_ok_iff.mp digits
    · intro digits
      exact ⟨_, hexBytes_eq_ok_iff.mpr digits, ofBytes_toBytes id⟩
  rw [read, Hex.decode_eq_ok_iff]
  constructor
  · rintro ⟨digits, lower⟩
    exact ⟨_, (toList_withoutMarker digits).mp rfl, digits, lower⟩
  · rintro ⟨ds, marked, digits, lower⟩
    rw [(toList_withoutMarker digits).mpr marked]
    exact ⟨digits, lower⟩

/-- Text that is read has 64 digits for each address. -/
theorem length_of_parse (h : parse text = .ok id) : 64 * id.path.length ≤ text.toList.length := by
  obtain ⟨ds, marked, -, lower⟩ := parse_eq_ok_iff.mp h
  have size := congrArg List.length lower
  have bytes : id.toBytes.length = 32 * id.path.length := length_pathBytes id.path
  rw [List.length_map, Hex.length_encodeChars, bytes] at size
  rcases marked with whole | whole
  · rw [whole]
    omega
  · rw [whole, List.length_cons, List.length_cons]
    omega

/-- An object id is read back from its text. -/
theorem parse_toText (id : ObjectId) : parse id.toText = .ok id := by
  rw [parse, toText, bind_eq_ok]
  refine ⟨id.toBytes, hexBytes_eq_ok_iff.mpr ?_, ofBytes_toBytes id⟩
  rw [withoutMarker_marked, Hex.decode_encode]

/-- Text is read exactly if it is the digits, of either case, of addresses, and of at least one. -/
theorem exists_parse_iff :
    (∃ id, parse text = .ok id) ↔
      ∃ ds, (text.toList = ds ∨ text.toList = '0' :: 'x' :: ds) ∧ ds.all Hex.isDigit = true ∧
        ∃ count, 1 ≤ count ∧ ds.length = 64 * count := by
  constructor
  · rintro ⟨id, read⟩
    obtain ⟨ds, marked, digits, lower⟩ := parse_eq_ok_iff.mp read
    refine ⟨ds, marked, digits, id.path.length, List.length_pos_iff.mpr id.path_ne_nil, ?_⟩
    have size := congrArg List.length lower
    rw [List.length_map, Hex.length_encodeChars, toBytes, ← pathBytes, length_pathBytes] at size
    omega
  · rintro ⟨ds, marked, digits, count, positive, size⟩
    have characters : (String.ofList ds).toList = ds := String.toList_ofList
    have allDigits : (String.ofList ds).toList.all Hex.isDigit = true := by rw [characters, digits]
    obtain ⟨-, bs, read⟩ := Hex.exists_of_allDigits 0 allDigits (by rw [characters]; omega)
    obtain ⟨-, -, lower⟩ := Hex.digits_of_readPairs read
    rw [characters] at lower
    have twice := congrArg List.length lower
    rw [List.length_map, Hex.length_encodeChars] at twice
    have blocks : bs.length = 32 * count := by omega
    obtain ⟨id, rfl⟩ := exists_toBytes_iff.mpr ⟨count, positive, blocks⟩
    exact ⟨id, parse_eq_ok_iff.mpr ⟨ds, marked, digits, lower⟩⟩

end ObjectId

end MoveWallet.Account
