/-
# MoveWallet.Proofs.Schema.Session — what holds after every step of a reader, whatever the bytes

A session mixes reads of any schema with reads of bytes, lengths and variants, and goes on after a
step that failed, from where the fault was found.  `ReadStep.take_sound` says what one step leaves:
it stops further on in the same buffer, what it answers is written as the bytes that it passed, and
a step that takes a number of bytes known beforehand has not moved if it failed.  `readings_sound`
carries this through a whole session by induction on its steps.
-/
import MoveWallet.Proofs.Schema.Canonicity
import MoveWallet.Proofs.Wire.Advance
import MoveWallet.Schema.Session

namespace MoveWallet

set_option autoImplicit false

open MoveWallet.Account
open MoveWallet.Auth
open MoveWallet.Bytes.Fixed
open MoveWallet.Move
open MoveWallet.Transaction
open MoveWallet.Wire
open MoveWallet.Wire.Decoder

/-! ## Readers of records -/

theorem advances_address : Address.codec.decode.Advances :=
  Codec.advances_map (Codec.advances_fixed 32)

theorem advances_identifier : Identifier.codec.decode.Advances :=
  Codec.advances_refine Codec.advances_text

theorem advances_moduleId : ModuleId.codec.decode.Advances :=
  Codec.advances_map (Codec.advances_pair advances_address advances_identifier)

theorem advances_functionId : FunctionId.codec.decode.Advances :=
  Codec.advances_map (Codec.advances_pair advances_moduleId advances_identifier)

theorem advances_structWith {param : Decoder TypeTag} (h : param.Advances) :
    (decodeStructWith param).Advances :=
  advances_address.bind fun _ => advances_identifier.bind fun _ => advances_identifier.bind fun _ =>
    advances_decodeLength.bind fun n => (h.readMany n).map

/-- Readers of types go forward, with any number of levels left. -/
theorem advances_decodeTypeTag (levels : Nat) : (decodeTypeTag levels).Advances := by
  induction levels using Nat.strongRecOn with
  | ind levels ih =>
    cases levels with
    | zero =>
      rw [decodeTypeTag]
      exact advances_fail _
    | succ levels =>
      have element := ih levels (Nat.lt_succ_self levels)
      have struct : (decodeStructTag levels).Advances := by
        rw [decodeStructTag_eq]
        exact advances_structWith (ih (levels - 1) (by omega))
      rw [decodeTypeTag]
      refine advances_decodeVariant.bind fun index => element.map.ite (struct.map.ite ?_)
      cases Primitive.ofRank? index with
      | none => exact advances_fail _
      | some p => exact advances_pure _

theorem advances_typeTag : TypeTag.codec.decode.Advances := advances_decodeTypeTag (maxDepth + 1)

theorem advances_structTag : StructTag.codec.decode.Advances :=
  advances_structWith (advances_decodeTypeTag maxDepth)

theorem advances_call {α : Type} {c : Codec α} (h : c.decode.Advances) :
    (c.pair ((Codec.vec TypeTag.codec).pair (Codec.vec Codec.bytes))).decode.Advances :=
  Codec.advances_pair h (Codec.advances_pair (Codec.advances_vec advances_typeTag)
    (Codec.advances_vec Codec.advances_bytes))

theorem advances_scriptCall : ScriptCall.codec.decode.Advances :=
  Codec.advances_map (advances_call Codec.advances_bytes)

theorem advances_functionCall : FunctionCall.codec.decode.Advances :=
  Codec.advances_map (advances_call advances_functionId)

theorem advances_action : Action.codec.decode.Advances :=
  advances_decodeVariant.bind fun _ => advances_scriptCall.map.ite
    (advances_functionCall.map.ite ((advances_fail _).ite (advances_fail _)))

theorem advances_body : Body.codec.decode.Advances := by
  have word := Codec.advances_word
  exact Codec.advances_map (Codec.advances_pair advances_address (Codec.advances_pair word
    (Codec.advances_pair word (Codec.advances_pair word advances_action))))

theorem advances_authenticator : Authenticator.codec.decode.Advances :=
  Codec.advances_map (Codec.advances_pair Codec.advances_word Codec.advances_bytes)

theorem advances_bitcoinPayload : BitcoinPayload.codec.decode.Advances := by
  have bytes := Codec.advances_bytes
  exact Codec.advances_map (Codec.advances_pair bytes (Codec.advances_pair bytes
    (Codec.advances_pair bytes (Codec.advances_pair bytes bytes))))

theorem advances_signed : Signed.codec.decode.Advances :=
  Codec.advances_map (Codec.advances_pair advances_body advances_authenticator)

theorem advances_chain : Chain.codec.decode.Advances :=
  Codec.advances_refine Codec.advances_word

theorem advances_relayedBlock : RelayedBlock.codec.decode.Advances :=
  Codec.advances_map (Codec.advances_pair advances_chain
    (Codec.advances_pair Codec.advances_word Codec.advances_bytes))

theorem advances_relayedTransaction : RelayedTransaction.codec.decode.Advances :=
  Codec.advances_map (Codec.advances_pair advances_chain
    (Codec.advances_pair Codec.advances_bytes Codec.advances_bytes))

theorem advances_ledgerEntry : LedgerEntry.codec.decode.Advances :=
  advances_decodeVariant.bind fun _ => advances_relayedBlock.map.ite
    (advances_relayedTransaction.map.ite (advances_signed.map.ite (advances_fail _)))

/-! ## Readers of schemas -/

theorem Leaf.advances (l : Leaf) : l.codec.decode.Advances := by
  cases l with
  | uint w => exact Codec.advances_uint w
  | bool => exact Codec.advances_bool
  | text => exact Codec.advances_text
  | uleb128 => exact advances_uleb128
  | bytes => exact Codec.advances_bytes
  | fixed n => exact Codec.advances_fixed n
  | address => exact advances_address
  | digest => exact Codec.advances_map (Codec.advances_fixed 32)
  | objectId => exact Codec.advances_refine (Codec.advances_vec advances_address)
  | identifier => exact advances_identifier
  | typeTag => exact advances_typeTag
  | structTag => exact advances_structTag
  | moduleId => exact advances_moduleId
  | functionId => exact advances_functionId
  | scriptCall => exact advances_scriptCall
  | functionCall => exact advances_functionCall
  | action => exact advances_action
  | body => exact advances_body
  | authenticator => exact advances_authenticator
  | bitcoinPayload => exact advances_bitcoinPayload
  | signed => exact advances_signed
  | chain => exact advances_chain
  | relayedBlock => exact advances_relayedBlock
  | relayedTransaction => exact advances_relayedTransaction
  | ledgerEntry => exact advances_ledgerEntry

/-- A reader of any schema goes forward, also when it fails. -/
theorem Schema.advances (s : Schema) : s.codec.decode.Advances := by
  induction s with
  | leaf l => exact l.advances
  | vec item ih => exact Codec.advances_vec ih
  | option item ih => exact Codec.advances_option ih
  | box item ih => exact ih
  | pair first second ihFirst ihSecond => exact Codec.advances_pair ihFirst ihSecond

/-! ## Steps -/

namespace Session

/-- How what a step reads is written. -/
def ReadStep.form : (t : ReadStep) → t.Result → Encoding
  | .value s, v => s.codec.encode v
  | .announced _, bs => .ok bs
  | .fixed _, bs => .ok bs
  | .length, n => encodeLength n
  | .variant, n => encodeVariant (UInt32.ofNat n)

/-- A step that takes a number of bytes known beforehand and accepts any: byte strings, numbers of
fixed width, addresses and digests. -/
def ReadStep.isBlock : ReadStep → Bool
  | .announced _ => true
  | .fixed _ => true
  | .value (.leaf (.fixed _)) => true
  | .value (.leaf (.uint _)) => true
  | .value (.leaf .address) => true
  | .value (.leaf .digest) => true
  | _ => false

/-- The number of bytes that the answer to a step promises behind it: a length its own, any other
answer none. -/
def ReadStep.promised : (t : ReadStep) → t.Result → Nat
  | .length, n => n
  | _, _ => 0

theorem ReadStep.advances (t : ReadStep) : t.decoder.Advances := by
  cases t with
  | value s => exact s.advances
  | announced n => exact advances_readAnnounced n
  | fixed n => exact advances_readBytes n
  | length => exact advances_decodeLength
  | variant => exact advances_decodeVariant

theorem ReadStep.allOrNothing {t : ReadStep} (h : t.isBlock = true) : t.decoder.AllOrNothing := by
  cases t with
  | announced n => exact allOrNothing_readAnnounced n
  | fixed n => exact allOrNothing_readBytes n
  | length => cases h
  | variant => cases h
  | value s =>
    cases s with
    | leaf l =>
      cases l with
      | fixed n => exact allOrNothing_readFixed n
      | uint w => exact (allOrNothing_readBytes w.bytes).map
      | address => exact (allOrNothing_readFixed 32).map
      | digest => exact (allOrNothing_readFixed 32).map
      | _ => cases h
    | _ => cases h

/-- The answer to a step is written as the bytes that the step passed. -/
theorem ReadStep.form_of_decoder {t : ReadStep} {a : t.Result} {c c' : Cursor}
    (read : t.decoder c = (.ok a, c')) : ∃ bs, t.form a = .ok bs ∧ c.Spans bs c' := by
  cases t with
  | value s => exact s.canonical read
  | announced n => exact ⟨a, rfl, (spans_of_readAnnounced read).2⟩
  | fixed n => exact ⟨a, rfl, (spans_of_readBytes read).2⟩
  | length => exact spans_of_decodeLength read
  | variant => exact ⟨_, rfl, spans_of_decodeVariant read⟩

theorem ReadStep.promised_le {t : ReadStep} {a : t.Result} {c c' : Cursor}
    (read : t.decoder c = (.ok a, c')) : t.promised a ≤ c'.remaining := by
  cases t with
  | length => exact le_remaining_of_decodeLength read
  | _ => exact Nat.zero_le _

/-! ## Sessions -/

/-- What a step that was taken at a cursor of a buffer leaves. -/
structure Reading.Sound (buffer : List UInt8) (c : Cursor) (r : Reading) : Prop where
  /-- What is left is the buffer from the position on. -/
  rest : r.cursor.rest = buffer.drop r.cursor.position
  /-- The bytes read and the bytes left are those of the buffer. -/
  whole : r.cursor.position + r.cursor.remaining = buffer.length
  forward : c.position ≤ r.cursor.position
  /-- A fault of a block leaves the cursor alone. -/
  still : r.step.isBlock = true → ∀ e, r.result = .error e → r.cursor = c
  /-- An answer is written as the bytes between the two positions. -/
  exact : ∀ a, r.result = .ok a →
    r.step.form a = .ok (buffer.extract c.position r.cursor.position)
  promised : ∀ a, r.result = .ok a → r.step.promised a ≤ r.cursor.remaining

/-- Each reading is sound where the one before it stopped. -/
def AllSound (buffer : List UInt8) : Cursor → List Reading → Prop
  | _, [] => True
  | c, r :: rs => r.Sound buffer c ∧ AllSound buffer r.cursor rs

/-- The bytes between two cursors of a buffer are those between their positions. -/
theorem extract_of_spans {buffer passed bs : List UInt8} {c c' : Cursor}
    (inside : (Cursor.start buffer).Spans passed c) (span : c.Spans bs c') :
    buffer.extract c.position c'.position = bs := by
  have whole : buffer = passed ++ c.rest := inside.rest
  have position : c.position = passed.length := by simpa [Cursor.start] using inside.position
  rw [List.extract_eq_take_drop, span.position, position, whole, span.rest,
    List.drop_left, Nat.add_sub_cancel_left, List.take_left]

/-- A step from inside a buffer is sound, and stops inside the buffer. -/
theorem ReadStep.take_sound {buffer passed : List UInt8} {c : Cursor} (t : ReadStep)
    (inside : (Cursor.start buffer).Spans passed c) :
    (t.take c).Sound buffer c ∧
      ∃ passed', (Cursor.start buffer).Spans passed' (t.take c).cursor := by
  obtain ⟨more, span⟩ := t.advances c
  have inside' := inside.append span
  have whole : buffer = (passed ++ more) ++ (t.decoder c).2.rest := inside'.rest
  have position : (t.decoder c).2.position = (passed ++ more).length := by
    simpa [Cursor.start] using inside'.position
  refine ⟨⟨?_, ?_, ?_, ?_, ?_, ?_⟩, _, inside'⟩
  · show (t.decoder c).2.rest = buffer.drop (t.decoder c).2.position
    rw [position, whole, List.drop_left]
  · show (t.decoder c).2.position + (t.decoder c).2.rest.length = buffer.length
    rw [position, ← List.length_append, ← whole]
  · show c.position ≤ (t.decoder c).2.position
    rw [span.position]
    exact Nat.le_add_right _ _
  · intro block e failed
    exact ReadStep.allOrNothing block (Prod.ext failed rfl)
  · intro a answered
    obtain ⟨bs, form, passedBytes⟩ := ReadStep.form_of_decoder (Prod.ext answered rfl)
    exact form.trans (congrArg Except.ok (extract_of_spans inside passedBytes).symm)
  · intro a answered
    exact ReadStep.promised_le (Prod.ext answered rfl)

theorem readings_allSound {buffer passed : List UInt8} {c : Cursor} (steps : List ReadStep)
    (inside : (Cursor.start buffer).Spans passed c) : AllSound buffer c (readings c steps) := by
  induction steps generalizing c passed with
  | nil => trivial
  | cons t steps ih =>
    obtain ⟨sound, passed', inside'⟩ := t.take_sound inside
    exact ⟨sound, ih inside'⟩

/-- In a session over any buffer, with any steps, each step is taken and is sound where the one
before it stopped, whether that failed or not. -/
theorem readings_sound (buffer : List UInt8) (steps : List ReadStep) :
    (readings (Cursor.start buffer) steps).map Reading.step = steps ∧
      AllSound buffer (Cursor.start buffer) (readings (Cursor.start buffer) steps) := by
  have taken : ∀ c, (readings c steps).map Reading.step = steps := by
    induction steps with
    | nil => exact fun _ => rfl
    | cons t steps ih => exact fun c => congrArg (t :: ·) (ih _)
  exact ⟨taken _, readings_allSound steps (Cursor.Spans.nil _)⟩

/-- A length that promises too much is refused once it was passed; a block that is too long is not
begun, and the next step still reads the byte. -/
example : (readings (Cursor.start [5, 1]) [.length, .fixed 2, .value (.leaf .bool)]).map
    (fun r => (r.result.toOption.isSome, r.cursor.position)) =
      [(false, 1), (false, 1), (true, 2)] := rfl

end Session

end MoveWallet
