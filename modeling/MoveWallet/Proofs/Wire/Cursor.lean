/-
# MoveWallet.Proofs.Wire.Cursor — what lies between two cursors, and readers run in sequence

`Cursor.Spans c₁ bs c₂` says that a reader which went from `c₁` to `c₂` passed exactly the bytes
`bs`.  `Decoder.Answers` says what a reader makes of the bytes before it: a value and the cursor
behind it, or a fault.  Both compose along `bind`, so a statement about a reader follows from those
about its parts.
-/
import MoveWallet.Proofs.Wire.Answer
import MoveWallet.Wire.Codec

namespace MoveWallet.Wire

set_option autoImplicit false

variable {α β : Type}

/-! ## Spans -/

/-- The bytes from cursor `c₁` to cursor `c₂` are `bs`. -/
structure Cursor.Spans (c₁ : Cursor) (bs : List UInt8) (c₂ : Cursor) : Prop where
  rest : c₁.rest = bs ++ c₂.rest
  position : c₂.position = c₁.position + bs.length

namespace Cursor.Spans

theorem nil (c : Cursor) : c.Spans [] c := ⟨rfl, rfl⟩

theorem append {c₁ c₂ c₃ : Cursor} {s t : List UInt8} (h : c₁.Spans s c₂) (k : c₂.Spans t c₃) :
    c₁.Spans (s ++ t) c₃ := by
  refine ⟨?_, ?_⟩
  · rw [h.rest, k.rest, List.append_assoc]
  · rw [k.position, h.position, List.length_append, Nat.add_assoc]

/-- A span of two parts has a cursor between them. -/
theorem split {c₁ c₃ : Cursor} {s t : List UInt8} (h : c₁.Spans (s ++ t) c₃) :
    ∃ c₂, c₁.Spans s c₂ ∧ c₂.Spans t c₃ := by
  refine ⟨⟨c₁.position + s.length, t ++ c₃.rest⟩, ⟨?_, rfl⟩, ⟨rfl, ?_⟩⟩
  · rw [h.rest, List.append_assoc]
  · rw [h.position, List.length_append, Nat.add_assoc]

theorem eq_of_nil {c₁ c₂ : Cursor} (h : c₁.Spans [] c₂) : c₁ = c₂ := by
  obtain ⟨rest, position⟩ := h
  cases c₁
  cases c₂
  simp_all

theorem rest_cons {c₁ c₂ : Cursor} {b : UInt8} {bs : List UInt8} (h : c₁.Spans (b :: bs) c₂) :
    c₁.rest = b :: (bs ++ c₂.rest) := h.rest

/-- What is left of a span behind its first byte. -/
theorem tail {c₁ c₂ : Cursor} {b : UInt8} {bs : List UInt8} (h : c₁.Spans (b :: bs) c₂) :
    Cursor.Spans ⟨c₁.position + 1, bs ++ c₂.rest⟩ bs c₂ := by
  refine ⟨rfl, ?_⟩
  rw [h.position, List.length_cons, Nat.add_assoc, Nat.add_comm 1]

theorem start_append (bs rest : List UInt8) :
    (Cursor.start (bs ++ rest)).Spans bs ⟨bs.length, rest⟩ :=
  ⟨rfl, (Nat.zero_add _).symm⟩

end Cursor.Spans

/-- The cursor `k` bytes further on. -/
def Cursor.skip (c : Cursor) (k : Nat) : Cursor := ⟨c.position + k, c.rest.drop k⟩

/-- What lies before a cursor further on is as many bytes as it is further on. -/
theorem Cursor.spans_skip_iff {c : Cursor} {bs : List UInt8} {k : Nat} :
    c.Spans bs (c.skip k) ↔ k ≤ c.remaining ∧ c.rest.take k = bs := by
  constructor
  · rintro ⟨rest, position⟩
    have count : k = bs.length := Nat.add_left_cancel position
    subst count
    refine ⟨?_, ?_⟩
    · rw [Cursor.remaining, rest, List.length_append]
      exact Nat.le_add_right _ _
    · rw [rest, List.take_left]
  · rintro ⟨enough, rfl⟩
    refine ⟨(List.take_append_drop k c.rest).symm, ?_⟩
    rw [List.length_take_of_le enough]
    rfl

/-! ## Readers in sequence -/

namespace Decoder

variable {d : Decoder α} {f : α → Decoder β}

theorem bind_of_ok {c₁ c₂ : Cursor} {a : α} (h : d c₁ = (.ok a, c₂)) : (d >>= f) c₁ = f a c₂ := by
  show Decoder.bind d f c₁ = f a c₂
  unfold Decoder.bind
  rw [h]

theorem bind_of_error {c₁ c₂ : Cursor} {e : WireError} (h : d c₁ = (.error e, c₂)) :
    (d >>= f) c₁ = (.error e, c₂) := by
  show Decoder.bind d f c₁ = (.error e, c₂)
  unfold Decoder.bind
  rw [h]

/-- A sequence gives a value exactly where both parts do. -/
theorem bind_eq_ok {c₁ c₃ : Cursor} {b : β} :
    (d >>= f) c₁ = (.ok b, c₃) ↔ ∃ a c₂, d c₁ = (.ok a, c₂) ∧ f a c₂ = (.ok b, c₃) := by
  constructor
  · intro h
    rcases result : d c₁ with ⟨e | a, c₂⟩
    · rw [bind_of_error result] at h
      cases h
    · rw [bind_of_ok result] at h
      exact ⟨a, c₂, rfl, h⟩
  · rintro ⟨a, c₂, first, second⟩
    rw [bind_of_ok first, second]

theorem pure_eq_ok {a b : α} {c₁ c₂ : Cursor} :
    (pure a : Decoder α) c₁ = (.ok b, c₂) ↔ a = b ∧ c₁ = c₂ := by
  show (Except.ok a, c₁) = (Except.ok b, c₂) ↔ _
  rw [Prod.mk.injEq, Except.ok.injEq]

theorem fail_eq_ok {e : WireError} {a : α} {c₁ c₂ : Cursor} :
    (fail e : Decoder α) c₁ ≠ (.ok a, c₂) := by
  intro h
  cases h

theorem ofOption_eq_ok {e : WireError} {o : Option α} {a : α} {c₁ c₂ : Cursor} :
    ofOption e o c₁ = (.ok a, c₂) ↔ o = some a ∧ c₁ = c₂ := by
  cases o with
  | none => simp [ofOption, fail]
  | some b => simp [ofOption, Decoder.pure]

/-- What a reader makes of the bytes before it: the fault if there is one, else a value and the
cursor behind it. -/
def Answers (d : Decoder α) (c₁ : Cursor) : Option WireError → α → Cursor → Prop
  | none, a, c₂ => d c₁ = (.ok a, c₂)
  | some e, _, _ => ∃ c, d c₁ = (.error e, c)

/-- The first fault of a sequence is its fault. -/
theorem Answers.bind {c₁ c₂ c₃ : Cursor} {a : α} {b : β} {o p : Option WireError}
    (h : d.Answers c₁ o a c₂) (k : (f a).Answers c₂ p b c₃) :
    (d >>= f).Answers c₁ (o.or p) b c₃ := by
  cases o with
  | none =>
    have step : (d >>= f) c₁ = f a c₂ := bind_of_ok h
    cases p with
    | none => exact step.trans k
    | some e =>
      obtain ⟨c, failed⟩ := k
      exact ⟨c, step.trans failed⟩
  | some e =>
    obtain ⟨c, failed⟩ := h
    exact ⟨c, bind_of_error failed⟩

/-- A value made of what was read. -/
theorem Answers.map {c₁ c₂ : Cursor} {a : α} {o : Option WireError} {g : α → β}
    (h : d.Answers c₁ o a c₂) : (d >>= fun a => pure (g a)).Answers c₁ o (g a) c₂ := by
  have value : (pure (g a) : Decoder β).Answers c₂ none (g a) c₂ := rfl
  have made := h.bind (f := fun a => pure (g a)) value
  rwa [Option.or_none] at made

end Decoder

/-! ## Writers in sequence -/

theorem Encoding.append_eq_ok {x y : Encoding} {bs : List UInt8} :
    x ++ y = .ok bs ↔ ∃ s t, x = .ok s ∧ y = .ok t ∧ bs = s ++ t := by
  constructor
  · intro h
    obtain ⟨s, first, rest⟩ := Wire.bind_eq_ok.mp h
    obtain ⟨t, second, made⟩ := Wire.bind_eq_ok.mp rest
    cases made
    exact ⟨s, t, first, second, rfl⟩
  · rintro ⟨s, t, rfl, rfl, rfl⟩
    rfl

theorem Encoding.append_assoc (x y z : Encoding) : x ++ y ++ z = x ++ (y ++ z) := by
  show Encoding.append (Encoding.append x y) z = Encoding.append x (Encoding.append y z)
  cases x with
  | error e => rfl
  | ok s =>
    cases y with
    | error e => rfl
    | ok t =>
      cases z with
      | error e => rfl
      | ok u => exact congrArg Except.ok (List.append_assoc s t u)

end MoveWallet.Wire
