/-
# MoveWallet.Proofs.Wire.Answer — answers that may be faults

An answer of several steps is there if every step has one.  These lemmas take such an answer apart,
into the answers of the steps (`bind_eq_ok`) or of the items of a list (`mapM_cons_eq_ok`,
`exists_of_mapM`), and `simp` puts known answers in (`ok_bind`), so that no proof opens the sequence
of steps itself.
-/

namespace MoveWallet.Wire

set_option autoImplicit false

section

variable {ε α β : Type}

/-- An answer is known once it is known without the fault it could have been. -/
theorem eq_ok_of_toOption {x : Except ε α} {a : α} (h : x.toOption = some a) : x = .ok a := by
  cases x with
  | error e => cases h
  | ok b =>
    cases h
    rfl

@[simp] theorem ok_bind (a : α) (f : α → Except ε β) : Except.ok a >>= f = f a := rfl

@[simp] theorem pure_eq_ok (a : α) : (pure a : Except ε α) = .ok a := rfl

/-- Two steps have an answer if the first has one and the second has one after it. -/
theorem bind_eq_ok {x : Except ε α} {f : α → Except ε β} {b : β} :
    x >>= f = .ok b ↔ ∃ a, x = .ok a ∧ f a = .ok b := by
  constructor
  · intro h
    cases x with
    | error e => cases h
    | ok a => exact ⟨a, rfl, h⟩
  · rintro ⟨a, rfl, h⟩
    exact h

theorem mapM_cons_eq_ok {f : α → Except ε β} {a : α} {as : List α} {bs : List β} :
    (a :: as).mapM f = .ok bs ↔ ∃ b rest, f a = .ok b ∧ as.mapM f = .ok rest ∧ bs = b :: rest := by
  rw [List.mapM_cons, bind_eq_ok]
  constructor
  · rintro ⟨b, first, rest⟩
    obtain ⟨others, more, made⟩ := bind_eq_ok.mp rest
    cases made
    exact ⟨b, others, first, more, rfl⟩
  · rintro ⟨b, rest, first, more, rfl⟩
    exact ⟨b, first, bind_eq_ok.mpr ⟨rest, more, rfl⟩⟩

/-- Items that are written and answered with themselves one by one are so as a list. -/
theorem mapM_map_eq_ok {f : β → Except ε α} {write : α → β} {as : List α}
    (h : ∀ a ∈ as, f (write a) = .ok a) : (as.map write).mapM f = .ok as := by
  induction as with
  | nil => rfl
  | cons a as ih =>
    rw [List.forall_mem_cons] at h
    rw [List.map_cons, mapM_cons_eq_ok]
    exact ⟨a, as, h.1, ih h.2, rfl⟩

theorem length_of_mapM {f : α → Except ε β} {as : List α} {bs : List β} (h : as.mapM f = .ok bs) :
    bs.length = as.length := by
  induction as generalizing bs with
  | nil =>
    cases h
    rfl
  | cons a as ih =>
    obtain ⟨b, rest, -, more, rfl⟩ := mapM_cons_eq_ok.mp h
    rw [List.length_cons, List.length_cons, ih more]

/-- A reader that gives the answers of another gives them for a list as well. -/
theorem mapM_eq_ok_of_forall {f g : α → Except ε β} {as : List α} {bs : List β}
    (h : as.mapM f = .ok bs) (same : ∀ a, ∀ b ∈ bs, f a = .ok b → g a = .ok b) :
    as.mapM g = .ok bs := by
  induction as generalizing bs with
  | nil => exact h
  | cons a as ih =>
    obtain ⟨b, rest, first, more, rfl⟩ := mapM_cons_eq_ok.mp h
    apply mapM_cons_eq_ok.mpr
    refine ⟨b, rest, same a b List.mem_cons_self first, ih more ?_, rfl⟩
    intro item answer member
    exact same item answer (List.mem_cons_of_mem b member)

/-- Each answer in a list is that of an item. -/
theorem exists_of_mapM {f : α → Except ε β} {as : List α} {bs : List β} (h : as.mapM f = .ok bs)
    {b : β} (member : b ∈ bs) : ∃ a ∈ as, f a = .ok b := by
  induction as generalizing bs with
  | nil =>
    cases h
    cases member
  | cons a as ih =>
    obtain ⟨first, others, answered, more, rfl⟩ := mapM_cons_eq_ok.mp h
    rcases List.mem_cons.mp member with rfl | member
    · exact ⟨a, List.mem_cons_self, answered⟩
    · obtain ⟨item, among, found⟩ := ih more member
      exact ⟨item, List.mem_cons_of_mem a among, found⟩

end

end MoveWallet.Wire
