/-
# MoveWallet.Proofs.Transaction.RoundTrip — which transactions are read back, and the others' faults

Writing takes every action and types of any depth; reading refuses actions that publish modules and
types of a weight above `maxDepth`.  `decodeExact_encode` says that nothing else is refused: for
bodies, for signed transactions and for the ledger's entries, whatever the other fields hold.
-/
import MoveWallet.Proofs.Transaction.Wire

namespace MoveWallet.Transaction

set_option autoImplicit false

open MoveWallet.Account
open MoveWallet.Move
open MoveWallet.Wire

/-- What the reader of whole buffers makes of `bs`, the bytes of a value `x` that holds `action`:
`x` for a call with shallow type arguments, and otherwise the fault of the action. -/
structure ReadsBack {α : Type} (c : Codec α) (x : α) (action : Action) (bs : List UInt8) :
    Prop where
  eq_iff : c.decodeExact bs = .ok x ↔
    (∀ codes, action ≠ .modules codes) ∧ ∀ t ∈ action.typeArgs, t.weight ≤ maxDepth
  modules : (∃ codes, action = .modules codes) →
    c.decodeExact bs = .error (.deprecatedVariant "MoveAction::ModuleBundle")
  deep : (∃ t ∈ action.typeArgs, maxDepth < t.weight) →
    c.decodeExact bs = .error (.malformedField "type tag nesting too deep")

theorem Action.fault_eq_none_iff {action : Action} :
    action.fault = none ↔
      (∀ codes, action ≠ .modules codes) ∧ ∀ t ∈ action.typeArgs, t.weight ≤ maxDepth := by
  cases action with
  | script call => simp [Action.fault, Action.typeArgs, typeArgsFault_eq_none_iff]
  | function call => simp [Action.fault, Action.typeArgs, typeArgsFault_eq_none_iff]
  | modules codes => simp [Action.fault]

theorem Action.fault_of_deep {action : Action} {t : TypeTag} (member : t ∈ action.typeArgs)
    (deep : maxDepth < t.weight) : action.fault = some tooDeep := by
  cases action with
  | script call => exact typeArgsFault_of_deep member deep
  | function call => exact typeArgsFault_of_deep member deep
  | modules codes => cases member

/-- A value whose fault is that of its action is read back as `ReadsBack` says. -/
theorem readsBack_of_reads {α : Type} {c : Codec α} {fault : α → Option WireError}
    (h : c.Reads fault) {x : α} {action : Action} {bs : List UInt8} (same : fault x = action.fault)
    (written : c.encode x = .ok bs) : ReadsBack c x action bs where
  eq_iff := by
    rw [← Action.fault_eq_none_iff, ← same]
    constructor
    · intro read
      rcases found : fault x with _ | e
      · rfl
      · rw [h.decodeExact_error written found] at read
        cases read
    · intro clean
      exact h.decodeExact written clean
  modules := by
    rintro ⟨codes, rfl⟩
    exact h.decodeExact_error written same
  deep := by
    rintro ⟨t, member, deep⟩
    exact h.decodeExact_error written (same.trans (Action.fault_of_deep member deep))

/-- Whatever can be written is read back if it is not a bundle of modules and has no type argument
of a weight above `maxDepth`; if it is or has one, the fault says which. -/
theorem decodeExact_encode :
    (∀ (b : Body) (bs : List UInt8), Body.codec.encode b = .ok bs →
      ReadsBack Body.codec b b.action bs) ∧
    (∀ (t : Signed) (bs : List UInt8), Signed.codec.encode t = .ok bs →
      ReadsBack Signed.codec t t.body.action bs) ∧
    (∀ (t : Signed) (bs : List UInt8), LedgerEntry.codec.encode (.signed t) = .ok bs →
      ReadsBack LedgerEntry.codec (.signed t) t.body.action bs) ∧
    (∀ (e : LedgerEntry) (bs : List UInt8), LedgerEntry.codec.encode e = .ok bs →
      (∀ t, e ≠ .signed t) → LedgerEntry.codec.decodeExact bs = .ok e) := by
  refine ⟨?_, ?_, ?_, ?_⟩
  · intro b bs written
    exact readsBack_of_reads reads_body rfl written
  · intro t bs written
    exact readsBack_of_reads reads_signed rfl written
  · intro t bs written
    exact readsBack_of_reads reads_ledgerEntry rfl written
  · intro e bs written other
    have clean : e.fault = none := by
      cases e with
      | block b => rfl
      | relayed t => rfl
      | signed t => exact absurd rfl (other t)
    exact reads_ledgerEntry.decodeExact written clean

/-- A script of no code with one type argument: vectors of bytes, `levels` deep. -/
def nestedScript (levels : Nat) : Body :=
  ⟨Address.zero, 7, 1, standardMaxGas, .script ⟨[], [.nest levels (.primitive .u8)], []⟩⟩

/-- A signed transaction with an authenticator that no validator knows. -/
def nestedSigned (levels : Nat) : Signed := ⟨nestedScript levels, ⟨9, [1, 2, 3]⟩⟩

/-- Sixteen vectors are read back and seventeen are not, alone, signed or entered in the ledger. -/
theorem decodeExact_encode_nested :
    (∃ bs, Body.codec.encode (nestedScript 16) = .ok bs ∧
      Body.codec.decodeExact bs = .ok (nestedScript 16)) ∧
    (∃ bs, Signed.codec.encode (nestedSigned 17) = .ok bs ∧
      Signed.codec.decodeExact bs = .error (.malformedField "type tag nesting too deep")) ∧
    (∃ bs, LedgerEntry.codec.encode (.signed (nestedSigned 16)) = .ok bs ∧
      LedgerEntry.codec.decodeExact bs = .ok (.signed (nestedSigned 16))) ∧
    ∃ bs, LedgerEntry.codec.encode (.block ⟨.ether, 5, [8]⟩) = .ok bs ∧
      LedgerEntry.codec.decodeExact bs = .ok (.block ⟨.ether, 5, [8]⟩) := by
  refine ⟨⟨_, rfl, ?_⟩, ⟨_, rfl, ?_⟩, ⟨_, rfl, ?_⟩, ⟨_, rfl, ?_⟩⟩
  · refine (decodeExact_encode.1 (nestedScript 16) _ rfl).eq_iff.mpr ⟨?_, ?_⟩
    · intro codes
      exact Action.noConfusion
    · decide
  · refine (decodeExact_encode.2.1 (nestedSigned 17) _ rfl).deep
      ⟨_, List.mem_singleton.mpr rfl, ?_⟩
    decide
  · refine (decodeExact_encode.2.2.1 (nestedSigned 16) _ rfl).eq_iff.mpr ⟨?_, ?_⟩
    · intro codes
      exact Action.noConfusion
    · decide
  · refine decodeExact_encode.2.2.2 (.block ⟨.ether, 5, [8]⟩) _ rfl ?_
    intro t
    exact LedgerEntry.noConfusion

end MoveWallet.Transaction
