/-
# MoveWallet.Proofs.Auth.Frame — the frame that is signed determines the message

In a frame the info and the hash stand side by side, and a length of one to nine bytes stands before
them.  The length is a form that can be read off the front, so equal frames have equal bodies; a
body is cut at the last line end, which hex digits do not contain, or at a known length of the hash.
`frame_determines_message` joins these with the layout of frames and what is done to infos.
-/
import MoveWallet.Proofs.Auth.Completeness
import MoveWallet.Proofs.Bitcoin.CompactSize
import MoveWallet.Proofs.Text.Hex

namespace MoveWallet.Auth

set_option autoImplicit false

open MoveWallet.Bitcoin
open MoveWallet.Text

/-! ## Infos -/

/-- An info that begins as a transaction's does and ends its last line is left as it is. -/
theorem normalizeInfo_of_normal {info : String} (marked : hasInfoPrefix info = true)
    (ended : info.toList.getLast? = some '\n') : normalizeInfo info = info := by
  simp [normalizeInfo, marked, ended]

theorem getLast?_normalizeInfo (info : String) :
    (normalizeInfo info).toList.getLast? = some '\n' := by
  simp only [normalizeInfo]
  generalize (if hasInfoPrefix info then info else infoPrefix ++ info) = text
  by_cases ended : text.toList.getLast? = some '\n'
  · rw [if_pos ended, ended]
  · rw [if_neg ended, String.toList_append]
    exact List.getLast?_concat

theorem normalizeInfo_normalizeInfo (info : String) :
    normalizeInfo (normalizeInfo info) = normalizeInfo info :=
  normalizeInfo_of_normal (hasInfoPrefix_normalizeInfo info) (getLast?_normalizeInfo info)

/-! ## Bodies -/

/-- Two texts that are equal as a whole are equal before and behind their last line end. -/
theorem append_inj_of_last {α : Type} [DecidableEq α] {x : α} {a b s t : List α}
    (h : a ++ [x] ++ s = b ++ [x] ++ t) (hs : x ∉ s) (ht : x ∉ t) : a = b ∧ s = t := by
  have behind : ∀ front tail : List α, x ∉ tail →
      (front ++ [x] ++ tail).reverse.takeWhile (· != x) = tail.reverse := by
    intro front tail absent
    have other : ∀ y ∈ tail.reverse, (y != x) = true := by
      intro y member
      rw [bne_iff_ne]
      rintro rfl
      exact absent (List.mem_reverse.mp member)
    simp [List.takeWhile_append_of_pos other]
  have tails : s.reverse = t.reverse := by rw [← behind a s hs, h, behind b t ht]
  obtain rfl := List.reverse_inj.mp tails
  exact ⟨List.append_cancel_right (List.append_cancel_right h), rfl⟩

/-- The bytes of a text that ends its last line. -/
theorem bytes_of_getLast? {info : String} (ended : info.toList.getLast? = some '\n') :
    ∃ front, Utf8.bytes info = front ++ [10] := by
  obtain ⟨front, whole⟩ := List.getLast?_eq_some_iff.mp ended
  refine ⟨Utf8.encode front, ?_⟩
  rw [Utf8.bytes, whole, Utf8.encode, List.flatMap_append]
  rfl

namespace SignedMessage

theorem eq_of_parts {m₁ m₂ : SignedMessage} (infos : m₁.info = m₂.info)
    (hashes : m₁.hash = m₂.hash) : m₁ = m₂ := by
  cases m₁
  cases m₂
  exact congrArg₂ SignedMessage.mk infos hashes

theorem body_eq (m : SignedMessage) : m.body = Utf8.bytes m.info ++ Hex.digitBytes m.hash := by
  rw [body, ← Hex.bytes_encode, Hex.encode, Utf8.bytes, Utf8.bytes, String.toList_ofList]

theorem length_body (m : SignedMessage) :
    m.body.length = Utf8.byteLength m.info + 2 * m.hash.length := by
  rw [body_eq, List.length_append, Hex.length_digitBytes, Utf8.byteLength]

theorem head_eq (m : SignedMessage) :
    m.head = Utf8.bytes framePrefix ++ CompactSize.write m.body.length := by
  rw [head, length_body]

theorem frame_layout (m : SignedMessage) :
    m.frame = Utf8.bytes framePrefix ++ CompactSize.write m.body.length ++ m.body := by
  rw [frame, head_eq]

/-- The length that stands behind the fixed text is the number of bytes that follow it. -/
theorem read?_drop_frame {m : SignedMessage} (bound : m.body.length < 2 ^ 64) :
    CompactSize.read? (m.frame.drop (Utf8.bytes framePrefix).length) =
      some (m.body.length, m.body) := by
  rw [frame_layout, List.append_assoc, List.drop_left, CompactSize.read?_write,
    Nat.mod_eq_of_lt bound]

/-- Frames that are equal have equal bodies. -/
theorem body_of_frame {m₁ m₂ : SignedMessage} (h : m₁.frame = m₂.frame) : m₁.body = m₂.body := by
  rw [frame_layout, frame_layout, List.append_assoc, List.append_assoc] at h
  exact CompactSize.append_inj (List.append_cancel_left h)

/-- Frames of messages whose infos end their last line are those of one message. -/
theorem eq_of_frame_of_ended {m₁ m₂ : SignedMessage}
    (ended₁ : m₁.info.toList.getLast? = some '\n') (ended₂ : m₂.info.toList.getLast? = some '\n')
    (h : m₁.frame = m₂.frame) : m₁ = m₂ := by
  have bodies := body_of_frame h
  obtain ⟨front₁, bytes₁⟩ := bytes_of_getLast? ended₁
  obtain ⟨front₂, bytes₂⟩ := bytes_of_getLast? ended₂
  rw [body_eq, body_eq, bytes₁, bytes₂] at bodies
  obtain ⟨fronts, digits⟩ := append_inj_of_last bodies (Hex.lineEnd_not_mem_digitBytes _)
    (Hex.lineEnd_not_mem_digitBytes _)
  have infos : m₁.info = m₂.info := Utf8.bytes_injective (by rw [bytes₁, bytes₂, fronts])
  exact eq_of_parts infos (Hex.digitBytes_injective digits)

/-- Frames of messages whose hashes have one length are those of one message. -/
theorem eq_of_frame_of_length {m₁ m₂ : SignedMessage} (size : m₁.hash.length = m₂.hash.length)
    (h : m₁.frame = m₂.frame) : m₁ = m₂ := by
  have bodies := body_of_frame h
  rw [body_eq, body_eq] at bodies
  have digits : (Hex.digitBytes m₁.hash).length = (Hex.digitBytes m₂.hash).length := by
    rw [Hex.length_digitBytes, Hex.length_digitBytes, size]
  obtain ⟨infos, hashes⟩ := List.append_inj' bodies digits
  exact eq_of_parts (Utf8.bytes_injective infos) (Hex.digitBytes_injective hashes)

theorem ended_normalized (hash : List UInt8) (info : String) :
    (normalized hash info).info.toList.getLast? = some '\n' :=
  getLast?_normalizeInfo info

theorem normalized_normalized (hash : List UInt8) (info : String) :
    normalized hash (normalized hash info).info = normalized hash info := by
  show SignedMessage.mk (normalizeInfo (normalizeInfo info)) hash = ⟨normalizeInfo info, hash⟩
  rw [normalizeInfo_normalizeInfo]

/-- The frame determines what is signed.  Of messages with normalized infos, whatever their hashes,
the frame tells the hash and the info; of any messages, it does so among hashes of one length.  A
frame is the fixed text, the shortest form of the number of bytes that follow, the info and the hash
in hex, so reading a length behind the fixed text gives the number of bytes that remain.  An info
that is normalized begins as a transaction's, ends its last line, and is not changed again. -/
theorem frame_determines_message :
    (∀ (h₁ h₂ : List UInt8) (i₁ i₂ : String), (normalized h₁ i₁).frame = (normalized h₂ i₂).frame →
      h₁ = h₂ ∧ normalizeInfo i₁ = normalizeInfo i₂) ∧
    (∀ m₁ m₂ : SignedMessage, m₁.hash.length = m₂.hash.length → m₁.frame = m₂.frame →
      m₁.hash = m₂.hash ∧ m₁.info = m₂.info) ∧
    (∀ m : SignedMessage,
      m.body = Utf8.bytes m.info ++ Utf8.bytes (Hex.encode m.hash) ∧
      m.frame = Utf8.bytes framePrefix ++ CompactSize.write m.body.length ++ m.body ∧
      (m.body.length < 2 ^ 64 →
        CompactSize.read? (m.frame.drop (Utf8.bytes framePrefix).length) =
          some (m.body.length, m.body)) ∧
      ∀ form, CompactSize.read? form = some (m.body.length, []) →
        form = CompactSize.write m.body.length ∨
          (CompactSize.write m.body.length).length < form.length) ∧
    ∀ (h : List UInt8) (i : String),
      normalized h (normalized h i).info = normalized h i ∧
      infoPrefix.toList <+: (normalized h i).info.toList ∧
      (normalized h i).info.toList.getLast? = some '\n' := by
  refine ⟨?_, ?_, ?_, ?_⟩
  · intro h₁ h₂ i₁ i₂ frames
    have same := eq_of_frame_of_ended (ended_normalized h₁ i₁) (ended_normalized h₂ i₂) frames
    exact ⟨congrArg SignedMessage.hash same, congrArg SignedMessage.info same⟩
  · intro m₁ m₂ size frames
    have same := eq_of_frame_of_length size frames
    exact ⟨congrArg SignedMessage.hash same, congrArg SignedMessage.info same⟩
  · intro m
    have parts : m.body = Utf8.bytes m.info ++ Utf8.bytes (Hex.encode m.hash) := by
      rw [body_eq, Hex.bytes_encode]
    exact ⟨parts, m.frame_layout, read?_drop_frame, fun form => CompactSize.write_shortest⟩
  · intro h i
    exact ⟨normalized_normalized h i, hasInfoPrefix_iff.mp (hasInfoPrefix_normalizeInfo i),
      ended_normalized h i⟩

/-- An info that only begins as a transaction's is normalized as the empty one; a body of 254 bytes
has a length of three bytes; three bytes are not the shortest form of zero. -/
theorem frame_determines_message_at_sizes :
    (([7] : List UInt8) = [7] ∧ normalizeInfo "" = normalizeInfo infoPrefix) ∧
    ((SignedMessage.mk "a\n" [7]).hash = [7] ∧ (SignedMessage.mk "a\n" [7]).info = "a\n") ∧
    CompactSize.read? ((SignedMessage.mk "" (List.replicate 127 0)).frame.drop
      (Utf8.bytes framePrefix).length) =
        some (254, (SignedMessage.mk "" (List.replicate 127 0)).body) ∧
    (([0xFD, 0, 0] : List UInt8) = CompactSize.write 0 ∨ (CompactSize.write 0).length < 3) := by
  obtain ⟨ofNormalized, ofLength, ofMessage, -⟩ := frame_determines_message
  have size : (SignedMessage.mk "" (List.replicate 127 0)).body.length = 254 := by
    rw [length_body, List.length_replicate]
    rfl
  have empty : (SignedMessage.mk "" []).body.length = 0 := by decide
  refine ⟨ofNormalized [7] [7] "" infoPrefix (by decide +kernel), ?_, ?_, ?_⟩
  · exact ofLength ⟨"a\n", [7]⟩ ⟨"a\n", [7]⟩ rfl rfl
  · rw [← size]
    exact (ofMessage _).2.2.1 (by rw [size]; decide)
  · rw [← empty]
    exact (ofMessage ⟨"", []⟩).2.2.2 [0xFD, 0, 0] (by decide)

end SignedMessage

end MoveWallet.Auth
