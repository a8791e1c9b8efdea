/-
# MoveWallet.Proofs.Schema.Stream — values written one after another are read one after another

A length is checked against all that is left of a buffer, so what a value is read as depends on what
stands behind it.  It does not matter for a value that was written: its items take at least one byte
each, and the bytes behind it only add to what is left.  `readings_written` draws the consequence
for a whole stream: whatever bytes follow, reading the schemas in order gives the values, ends
behind each value where its bytes end, and leaves the bytes that follow.

Two things are asked of the schemas (`Schema.Streams`): no leaf holds Move types, which a reader
refuses when they are too deep, and no list has items that are written as nothing.
-/
import Mathlib.Algebra.GroupWithZero.Nat
import MoveWallet.Proofs.Schema.Size
import MoveWallet.Schema.Session

namespace MoveWallet

set_option autoImplicit false

open MoveWallet.Account
open MoveWallet.Auth
open MoveWallet.Bytes.Fixed
open MoveWallet.Move
open MoveWallet.Transaction
open MoveWallet.Wire

/-! ## Schemas that are read back -/

/-- The leaves that hold Move types. -/
def Leaf.holdsTypes : Leaf → Bool
  | typeTag => true
  | structTag => true
  | scriptCall => true
  | functionCall => true
  | action => true
  | body => true
  | signed => true
  | ledgerEntry => true
  | _ => false

/-- No leaf holds Move types, and the items of lists take at least one byte each. -/
def Schema.Streams : Schema → Prop
  | leaf l => l.holdsTypes = false
  | vec item => item.Streams ∧ Solid item.codec.encode
  | option item => item.Streams
  | box item => item.Streams
  | pair first second => first.Streams ∧ second.Streams

/-- A leaf is read back if it holds no types. -/
theorem Leaf.faithful {l : Leaf} (h : l.holdsTypes = false) : l.codec.Faithful := by
  cases l with
  | uint w => exact Codec.faithful_uint w
  | bool => exact Codec.faithful_bool
  | text => exact Codec.faithful_text
  | uleb128 => exact Codec.faithful_uleb128
  | bytes => exact Codec.faithful_bytes
  | fixed n => exact Codec.faithful_fixed n
  | address => exact faithful_address
  | digest => exact Codec.Reads.map (Codec.faithful_fixed 32) fun _ => rfl
  | objectId => exact faithful_objectId
  | identifier => exact faithful_identifier
  | moduleId => exact faithful_moduleId
  | functionId => exact faithful_functionId
  | authenticator => exact faithful_authenticator
  | bitcoinPayload => exact faithful_bitcoinPayload
  | chain => exact faithful_chain
  | relayedBlock => exact faithful_relayedBlock
  | relayedTransaction => exact faithful_relayedTransaction
  | typeTag => cases h
  | structTag => cases h
  | scriptCall => cases h
  | functionCall => cases h
  | action => cases h
  | body => cases h
  | signed => cases h
  | ledgerEntry => cases h

/-- Values are read back wherever they stand. -/
theorem Schema.Streams.faithful {s : Schema} (h : s.Streams) : s.codec.Faithful := by
  induction s with
  | leaf l => exact Leaf.faithful h
  | vec item ih => exact Codec.Faithful.vec (ih h.1) h.2
  | option item ih => exact Codec.Faithful.option (ih h)
  | box item ih => exact ih h
  | pair first second ihFirst ihSecond => exact Codec.Faithful.pair (ihFirst h.1) (ihSecond h.2)

/-! ## Streams -/

namespace Session

/-- A value and the schema that it is written by. -/
structure Item where
  schema : Schema
  value : schema.Value

/-- The bytes of an item. -/
def Item.encoding (x : Item) : Encoding := x.schema.codec.encode x.value

/-- The step that writes an item. -/
def Item.write (x : Item) : WriteStep := .value x.schema x.value

/-- The step that reads an item of the same schema. -/
def Item.read (x : Item) : ReadStep := .value x.schema

/-- Where a reader stands that began at a cursor and took some readings. -/
def stop : Cursor → List Reading → Cursor
  | c, [] => c
  | _, r :: rs => stop r.cursor rs

/-- Number of bytes of encodings together. -/
def total (encodings : List (List UInt8)) : Nat := (encodings.map List.length).sum

@[simp] theorem total_nil : total [] = 0 := rfl

@[simp] theorem total_cons (bs : List UInt8) (encodings : List (List UInt8)) :
    total (bs :: encodings) = bs.length + total encodings := by
  simp [total]

/-- A writer that meets no fault puts one encoding behind the other. -/
theorem written_of_encoded {items : List Item} {encodings : List (List UInt8)}
    (encoded : items.map Item.encoding = encodings.map .ok) (buffer : List UInt8) :
    written buffer (items.map Item.write) = buffer ++ encodings.flatten := by
  induction items generalizing encodings buffer with
  | nil =>
    obtain rfl : encodings = [] := by simpa using encoded.symm
    simp [written]
  | cons x items ih =>
    cases encodings with
    | nil => cases encoded
    | cons bs encodings =>
      simp only [List.map_cons, List.cons.injEq] at encoded
      have added : x.write.apply buffer = buffer ++ bs := by
        have here : x.write.encoding = .ok bs := encoded.1
        simp [WriteStep.apply, here]
      have rest := ih encoded.2 (buffer ++ bs)
      show written (x.write.apply buffer) (items.map Item.write) = _
      rw [added, rest, List.flatten_cons, List.append_assoc]

/-- The bytes of an item are read as it, up to where they end. -/
theorem take_read {x : Item} {bs : List UInt8} {c₁ c₂ : Cursor} (streams : x.schema.Streams)
    (encoded : x.encoding = .ok bs) (span : c₁.Spans bs c₂) :
    x.read.take c₁ = ⟨x.read, .ok x.value, c₂⟩ := by
  have answer : x.read.decoder c₁ = (.ok x.value, c₂) := streams.faithful encoded span
  simp [ReadStep.take, answer]

/-- Where the encodings of items stand one behind the other, the items are read in sequence. -/
theorem readings_of_rest {items : List Item} {encodings : List (List UInt8)} {tail : List UInt8}
    {c : Cursor} (streams : ∀ x ∈ items, x.schema.Streams)
    (encoded : items.map Item.encoding = encodings.map .ok)
    (rest : c.rest = encodings.flatten ++ tail) :
    (∀ (k : Nat) (x : Item), items[k]? = some x →
      (readings c (items.map Item.read))[k]? = some (⟨x.read, .ok x.value,
        ⟨c.position + total (encodings.take (k + 1)),
          (encodings.drop (k + 1)).flatten ++ tail⟩⟩ : Reading)) ∧
    stop c (readings c (items.map Item.read)) = ⟨c.position + total encodings, tail⟩ := by
  induction items generalizing encodings c with
  | nil =>
    obtain rfl : encodings = [] := by simpa using encoded.symm
    refine ⟨by simp, ?_⟩
    cases c
    simp_all [readings, stop]
  | cons x items ih =>
    cases encodings with
    | nil => cases encoded
    | cons bs encodings =>
      simp only [List.map_cons, List.cons.injEq] at encoded
      -- the first item is read up to `mid`, the others from there
      let mid : Cursor := ⟨c.position + bs.length, encodings.flatten ++ tail⟩
      have span : c.Spans bs mid := by
        refine ⟨?_, rfl⟩
        rw [rest, List.flatten_cons, List.append_assoc]
      have first := take_read (streams x List.mem_cons_self) encoded.1 span
      have behind : ∀ y ∈ items, y.schema.Streams :=
        fun y member => streams y (List.mem_cons_of_mem x member)
      obtain ⟨each, stopped⟩ := ih behind encoded.2 (c := mid) rfl
      have steps : readings c ((x :: items).map Item.read) =
          ⟨x.read, .ok x.value, mid⟩ :: readings mid (items.map Item.read) := by
        rw [List.map_cons, readings, first]
      rw [steps]
      refine ⟨?_, ?_⟩
      · intro k y found
        cases k with
        | zero =>
          cases found
          simp [mid]
        | succ k =>
          rw [List.getElem?_cons_succ] at found ⊢
          rw [each k y found]
          simp [mid, Nat.add_assoc]
      · show stop mid (readings mid (items.map Item.read)) = _
        rw [stopped, total_cons, ← Nat.add_assoc]

/-- Items that are written without a fault, one after another, are read back one after another,
whatever bytes follow them: each step answers the value that was written, and stands where the bytes
of this value and those before it end.  Exactly the bytes that follow are left. -/
theorem readings_written (items : List Item) (encodings : List (List UInt8)) (tail : List UInt8)
    (streams : ∀ x ∈ items, x.schema.Streams)
    (encoded : items.map Item.encoding = encodings.map .ok) :
    let buffer := written [] (items.map Item.write)
    let start := Cursor.start (buffer ++ tail)
    let rs := readings start (items.map Item.read)
    buffer = encodings.flatten ∧
    (∀ (k : Nat) (x : Item), items[k]? = some x →
      rs[k]? = some ⟨.value x.schema, .ok x.value,
        ⟨total (encodings.take (k + 1)), (encodings.drop (k + 1)).flatten ++ tail⟩⟩) ∧
    stop start rs = ⟨total encodings, tail⟩ := by
  intro buffer start rs
  have bytes : buffer = encodings.flatten := written_of_encoded encoded []
  have rest : start.rest = encodings.flatten ++ tail := by rw [← bytes]; rfl
  obtain ⟨each, stopped⟩ := readings_of_rest streams encoded rest
  have zero : start.position = 0 := rfl
  simp only [zero, Nat.zero_add] at each stopped
  exact ⟨bytes, each, stopped⟩

/-- A number with a list of byte strings, and a list of optional texts each with an empty byte
string. -/
def nestedItems : List Item :=
  [⟨.pair (.leaf (.uint .w16)) (.vec (.leaf .bytes)), (0x0102#16, [[7], []])⟩,
    ⟨.vec (.option (.pair (.leaf .text) (.leaf (.fixed 0)))), [none, some ("é", ⟨[], rfl⟩)]⟩]

/-- The bytes of `nestedItems`. -/
def nestedEncodings : List (List UInt8) := [[2, 1, 2, 1, 7, 0], [2, 0, 1, 2, 0xC3, 0xA9]]

/-- The second of `nestedItems` is read between the first and a tail. -/
theorem readings_written_nested :
    (readings (Cursor.start ([2, 1, 2, 1, 7, 0, 2, 0, 1, 2, 0xC3, 0xA9] ++ [0xFF]))
      (nestedItems.map Item.read))[1]? =
        some (⟨.value (.vec (.option (.pair (.leaf .text) (.leaf (.fixed 0))))),
          .ok [none, some ("é", ⟨[], rfl⟩)], ⟨12, [0xFF]⟩⟩ : Reading) := by
  have streams : ∀ x ∈ nestedItems, x.schema.Streams := by
    intro x member
    rcases List.mem_cons.mp member with rfl | member
    · exact ⟨rfl, rfl, Schema.solid_iff.mpr rfl⟩
    · rw [List.mem_singleton.mp member]
      exact ⟨⟨rfl, rfl⟩, Schema.solid_iff.mpr rfl⟩
  have encoded : nestedItems.map Item.encoding = nestedEncodings.map .ok := by rfl
  exact (readings_written nestedItems nestedEncodings [0xFF] streams encoded).2.1 1 _ rfl

end Session

end MoveWallet
