/-
# MoveWallet.Proofs.Transaction.Identity — the bytes of a transaction identify it

The round trip says nothing of bundles of modules and of deep types, which are not read.  Their
bytes identify them all the same, because encodings of bodies are prefix-free
(`prefixFree_body`).  `eq_of_prefix_encode` draws the consequences: what is hashed differs for
different bodies, and nothing but the bytes of a body can be read where they begin or end.
-/
import MoveWallet.Proofs.Transaction.Wire

namespace MoveWallet.Transaction

set_option autoImplicit false

open MoveWallet.Account
open MoveWallet.Move
open MoveWallet.Wire

theorem Body.hash_of_encode {b : Body} {bs : List UInt8} (written : Body.codec.encode b = .ok bs) :
    b.hash = .ok (Digest32.sha3 bs) := by
  rw [Body.hash, written]
  rfl

/-- If the bytes of one body begin those of another, the bodies are equal; so different bodies are
hashed from different bytes, and the reader refuses every proper beginning and every proper
continuation of the bytes of a body. -/
theorem eq_of_prefix_encode :
    (∀ (x y : Body) (s t : List UInt8), Body.codec.encode x = .ok s → Body.codec.encode y = .ok t →
      (s <+: t → x = y) ∧
      x.hash = .ok (Digest32.sha3 s) ∧ y.hash = .ok (Digest32.sha3 t) ∧ (x ≠ y → s ≠ t)) ∧
    ∀ (x : Body) (s : List UInt8), Body.codec.encode x = .ok s →
      (∀ t, t <+: s → t ≠ s → ∃ e, Body.codec.decodeExact t = .error e) ∧
      ∀ t, s <+: t → t ≠ s → ∃ e, Body.codec.decodeExact t = .error e := by
  refine ⟨?_, ?_⟩
  · intro x y s t writtenX writtenY
    have same : s <+: t → x = y := by
      rintro ⟨r, whole⟩
      exact prefixFree_body writtenX writtenY (whole.trans (List.append_nil t).symm)
    refine ⟨same, Body.hash_of_encode writtenX, Body.hash_of_encode writtenY, ?_⟩
    rintro different rfl
    exact different (same (List.prefix_refl s))
  · intro x s written
    refine ⟨?_, ?_⟩
    · intro t beginning different
      exact canonical_body.decodeExact_error prefixFree_body written (.inl beginning) different
    · intro t continuation different
      exact canonical_body.decodeExact_error prefixFree_body written (.inr continuation) different

/-- A body that publishes one module of a single byte. -/
def publishing : Body := ⟨Address.zero, 0, 1, standardMaxGas, .modules [[7]]⟩

/-- A body that calls a script with a type argument too deep to be read. -/
def deepScript : Body :=
  ⟨Address.zero, 0, 1, standardMaxGas, .script ⟨[], [.nest 18 (.primitive .bool)], []⟩⟩

/-- Two bodies that are written and never read: neither begins the other, and with a byte more or
less their bytes are refused too. -/
theorem eq_of_prefix_encode_unreadable :
    ∃ s t, Body.codec.encode publishing = .ok s ∧ Body.codec.encode deepScript = .ok t ∧
      s ≠ t ∧ ¬ s <+: t ∧ publishing.hash = .ok (Digest32.sha3 s) ∧
      (∃ e, Body.codec.decodeExact (s.take 40) = .error e) ∧
      ∃ e, Body.codec.decodeExact (t ++ [0]) = .error e := by
  have different : publishing ≠ deepScript := by
    intro same
    exact Action.noConfusion (congrArg Body.action same)
  refine ⟨_, _, rfl, rfl, ?_⟩
  obtain ⟨same, hash, -, apart⟩ := eq_of_prefix_encode.1 publishing deepScript _ _ rfl rfl
  refine ⟨apart different, fun beginning => different (same beginning), hash, ?_, ?_⟩
  · exact (eq_of_prefix_encode.2 publishing _ rfl).1 _ (List.take_prefix _ _) (by decide)
  · exact (eq_of_prefix_encode.2 deepScript _ rfl).2 _ (List.prefix_append _ _) (by decide)

end MoveWallet.Transaction
