/-
# MoveWallet.Proofs.Text.Reading — texts that are read character by character

A text is read by reading each of its characters, and refused as soon as one is refused.  What
holds of the characters and what they are read as holds of the text: the characters of values are
read as these values (`mapM_map_eq_some`), and read values lead back to the characters
(`map_eq_of_mapM`, `forall_of_mapM`).
-/

namespace MoveWallet.Text.Reading

set_option autoImplicit false

variable {α β γ : Type} {read : α → Option β} {as : List α} {bs : List β}

theorem mapM_cons_eq_some {a : α} :
    (a :: as).mapM read = some bs ↔
      ∃ b rest, read a = some b ∧ as.mapM read = some rest ∧ bs = b :: rest := by
  rw [List.mapM_cons]
  simp only [Option.bind_eq_bind, Option.bind_eq_some_iff, Option.pure_def, Option.some.injEq]
  constructor
  · rintro ⟨b, first, rest, others, rfl⟩
    exact ⟨b, rest, first, others, rfl⟩
  · rintro ⟨b, rest, first, others, rfl⟩
    exact ⟨b, first, rest, others, rfl⟩

theorem mapM_map_eq_some {write : β → α} (h : ∀ b ∈ bs, read (write b) = some b) :
    (bs.map write).mapM read = some bs := by
  induction bs with
  | nil => rfl
  | cons b bs ih =>
    rw [List.map_cons, mapM_cons_eq_some]
    rw [List.forall_mem_cons] at h
    exact ⟨b, bs, h.1, ih h.2, rfl⟩

theorem map_eq_of_mapM {f : β → γ} {g : α → γ} (h : ∀ a b, read a = some b → f b = g a)
    (whole : as.mapM read = some bs) : bs.map f = as.map g := by
  induction as generalizing bs with
  | nil =>
    cases whole
    rfl
  | cons a as ih =>
    obtain ⟨b, rest, first, others, rfl⟩ := mapM_cons_eq_some.mp whole
    rw [List.map_cons, List.map_cons, h a b first, ih others]

theorem forall_of_mapM {P : β → Prop} (h : ∀ a b, read a = some b → P b)
    (whole : as.mapM read = some bs) : ∀ b ∈ bs, P b := by
  induction as generalizing bs with
  | nil =>
    cases whole
    simp
  | cons a as ih =>
    obtain ⟨b, rest, first, others, rfl⟩ := mapM_cons_eq_some.mp whole
    exact List.forall_mem_cons.mpr ⟨h a b first, ih others⟩

end MoveWallet.Text.Reading
