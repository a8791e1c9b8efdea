/-
# MoveWallet.Proofs.Transaction.Wire — the laws of the records that transactions are made of

Calls, bodies and signed transactions are read back unless their action has a fault
(`Action.fault`): modules are published, or a type argument is too deep.  Everything else here is
always read back.  All are read from one form only, and bodies are prefix-free whatever their
action.
-/
import MoveWallet.Proofs.Auth.Wire
import MoveWallet.Proofs.Move.TypeTagWire
import MoveWallet.Transaction.Ledger

namespace MoveWallet.Transaction

set_option autoImplicit false

open MoveWallet.Account
open MoveWallet.Auth
open MoveWallet.Move
open MoveWallet.Wire

/-! ## Types and arguments of calls -/

theorem reads_typeTag : TypeTag.codec.Reads (TypeTag.fault (maxDepth + 1)) :=
  TypeTag.reads_codecAt (maxDepth + 1)

theorem canonical_typeTag : TypeTag.codec.Canonical := TypeTag.canonical_codecAt (maxDepth + 1)

theorem canonical_structTag : StructTag.codec.Canonical :=
  StructTag.canonical_codecAt (TypeTag.canonical_codecAt maxDepth)

/-- The fault of type arguments: the first that is too deep. -/
def typeArgsFault (ts : List TypeTag) : Option WireError :=
  ts.findSome? (TypeTag.fault (maxDepth + 1))

theorem typeArgsFault_eq_none_iff {ts : List TypeTag} :
    typeArgsFault ts = none ↔ ∀ t ∈ ts, t.weight ≤ maxDepth := by
  simp only [typeArgsFault, List.findSome?_eq_none_iff, TypeTag.fault_eq_none_iff, Nat.lt_succ_iff]

theorem typeArgsFault_of_deep {ts : List TypeTag} {t : TypeTag} (member : t ∈ ts)
    (deep : maxDepth < t.weight) : typeArgsFault ts = some tooDeep := by
  induction ts with
  | nil => cases member
  | cons u ts ih =>
    rw [typeArgsFault, List.findSome?_cons]
    by_cases fits : u.weight < maxDepth + 1
    · have rest : t ∈ ts := by
        rcases List.mem_cons.mp member with rfl | rest
        · omega
        · exact rest
      rw [TypeTag.fault, if_pos fits]
      exact ih rest
    · rw [TypeTag.fault, if_neg fits]

theorem reads_typeArgs : (Codec.vec TypeTag.codec).Reads typeArgsFault :=
  reads_typeTag.vec fun t _ written => TypeTag.solid t written

theorem faithful_args : (Codec.vec Codec.bytes).Faithful :=
  Codec.faithful_bytes.vec Codec.solid_bytes

theorem canonical_args : (Codec.vec Codec.bytes).Canonical := Codec.canonical_bytes.vec

theorem prefixFree_typeArgs : PrefixFree (Codec.vec TypeTag.codec).encode :=
  Codec.prefixFree_vec TypeTag.prefixFree

theorem prefixFree_args : PrefixFree (Codec.vec Codec.bytes).encode :=
  Codec.prefixFree_vec Codec.faithful_bytes.prefixFree

/-! ## Calls -/

/-- What is called, the type arguments and the arguments are read one after another. -/
theorem reads_call {α : Type} {c : Codec α} (h : c.Faithful) :
    (c.pair ((Codec.vec TypeTag.codec).pair (Codec.vec Codec.bytes))).Reads fun p =>
      typeArgsFault p.2.1 := by
  have call := Codec.Reads.pair h (reads_typeArgs.pair faithful_args)
  simpa only [Option.none_or, Option.or_none] using call

theorem canonical_call {α : Type} {c : Codec α} (h : c.Canonical) :
    (c.pair ((Codec.vec TypeTag.codec).pair (Codec.vec Codec.bytes))).Canonical :=
  h.pair (canonical_typeTag.vec.pair canonical_args)

theorem prefixFree_call {α : Type} {c : Codec α} (h : PrefixFree c.encode) :
    PrefixFree (c.pair ((Codec.vec TypeTag.codec).pair (Codec.vec Codec.bytes))).encode :=
  Codec.prefixFree_pair h (Codec.prefixFree_pair prefixFree_typeArgs prefixFree_args)

theorem reads_scriptCall : ScriptCall.codec.Reads fun call => typeArgsFault call.typeArgs :=
  (reads_call Codec.faithful_bytes).map fun _ => rfl

theorem canonical_scriptCall : ScriptCall.codec.Canonical :=
  (canonical_call Codec.canonical_bytes).map fun _ => rfl

theorem prefixFree_scriptCall : PrefixFree ScriptCall.codec.encode :=
  Codec.prefixFree_map (prefixFree_call Codec.faithful_bytes.prefixFree) fun _ => rfl

theorem reads_functionCall : FunctionCall.codec.Reads fun call => typeArgsFault call.typeArgs :=
  (reads_call faithful_functionId).map fun _ => rfl

theorem canonical_functionCall : FunctionCall.codec.Canonical :=
  (canonical_call canonical_functionId).map fun _ => rfl

theorem prefixFree_functionCall : PrefixFree FunctionCall.codec.encode :=
  Codec.prefixFree_map (prefixFree_call faithful_functionId.prefixFree) fun _ => rfl

/-! ## Actions -/

/-- What a reader finds wrong with an action: that it publishes modules, or a type argument. -/
def Action.fault : Action → Option WireError
  | .script call => typeArgsFault call.typeArgs
  | .function call => typeArgsFault call.typeArgs
  | .modules _ => some (.deprecatedVariant "MoveAction::ModuleBundle")

theorem reads_action : Action.codec.Reads Action.fault := by
  intro action bs c₁ c₃ written span
  show Action.decode.Answers c₁ action.fault action c₃
  unfold Action.decode
  cases action with
  | script call =>
    obtain ⟨u, c₂, content, index, behind⟩ := variant_of_spans written span
    exact index.bind (reads_scriptCall content behind).map
  | function call =>
    obtain ⟨u, c₂, content, index, behind⟩ := variant_of_spans written span
    exact index.bind (reads_functionCall content behind).map
  | modules codes =>
    obtain ⟨u, c₂, content, index, behind⟩ := variant_of_spans written span
    exact ⟨c₂, Decoder.bind_of_ok index⟩

theorem canonical_action : Action.codec.Canonical := by
  intro action c₁ c₃ read
  change Action.decode c₁ = _ at read
  unfold Action.decode at read
  obtain ⟨index, c₂, first, rest⟩ := Decoder.bind_eq_ok.mp read
  have before := spans_of_decodeVariant first
  split at rest
  · rename_i script
    subst script
    obtain ⟨call, bs, rfl, written, span⟩ := canonical_scriptCall.variant before rest
    exact ⟨bs, written, span⟩
  · split at rest
    · rename_i function
      subst function
      obtain ⟨call, bs, rfl, written, span⟩ := canonical_functionCall.variant before rest
      exact ⟨bs, written, span⟩
    · split at rest
      · exact absurd rest Decoder.fail_eq_ok
      · exact absurd rest Decoder.fail_eq_ok

/-- Actions are told apart by their kind and then by what they hold, those that publish modules
included. -/
theorem prefixFree_action : PrefixFree Action.codec.encode := by
  intro a b s t r r' ha hb e
  cases a with
  | script call =>
    cases b with
    | script call' =>
      obtain ⟨-, u, v, hu, hv, e⟩ := Codec.variant_ends ha hb e
      rw [prefixFree_scriptCall hu hv e]
    | function call' => exact absurd (Codec.variant_ends ha hb e).1 (by decide)
    | modules codes' => exact absurd (Codec.variant_ends ha hb e).1 (by decide)
  | function call =>
    cases b with
    | script call' => exact absurd (Codec.variant_ends ha hb e).1 (by decide)
    | function call' =>
      obtain ⟨-, u, v, hu, hv, e⟩ := Codec.variant_ends ha hb e
      rw [prefixFree_functionCall hu hv e]
    | modules codes' => exact absurd (Codec.variant_ends ha hb e).1 (by decide)
  | modules bundle =>
    cases b with
    | script call' => exact absurd (Codec.variant_ends ha hb e).1 (by decide)
    | function call' => exact absurd (Codec.variant_ends ha hb e).1 (by decide)
    | modules bundle' =>
      obtain ⟨-, u, v, hu, hv, e⟩ := Codec.variant_ends ha hb e
      rw [prefixFree_args hu hv e]

/-! ## Bodies and signed transactions -/

theorem reads_body : Body.codec.Reads fun b => b.action.fault := by
  have word := Codec.faithful_word
  have fields := Codec.Reads.pair faithful_address
    (Codec.Reads.pair word (Codec.Reads.pair word (Codec.Reads.pair word reads_action)))
  exact fields.map fun _ => rfl

theorem canonical_body : Body.codec.Canonical := by
  have word := Codec.canonical_word
  exact (canonical_address.pair (word.pair (word.pair (word.pair canonical_action)))).map
    fun _ => rfl

theorem prefixFree_body : PrefixFree Body.codec.encode := by
  have word := Codec.faithful_word.prefixFree
  have fields := Codec.prefixFree_pair faithful_address.prefixFree (Codec.prefixFree_pair word
    (Codec.prefixFree_pair word (Codec.prefixFree_pair word prefixFree_action)))
  exact Codec.prefixFree_map fields fun _ => rfl

theorem reads_signed : Signed.codec.Reads fun t => t.body.action.fault := by
  have fields := reads_body.pair faithful_authenticator
  simp only [Option.or_none] at fields
  exact fields.map fun _ => rfl

theorem canonical_signed : Signed.codec.Canonical :=
  (canonical_body.pair canonical_authenticator).map fun _ => rfl

/-! ## The ledger -/

theorem ofId?_id (c : Chain) : Chain.ofId? c.id = some c := by
  cases c <;> rfl

theorem id_of_ofId? {n : UInt64} {c : Chain} (h : Chain.ofId? n = some c) : c.id = n := by
  unfold Chain.ofId? at h
  split_ifs at h with bitcoin ether sui nostr rooch
  all_goals
    cases h
    symm
    assumption

theorem faithful_chain : Chain.codec.Faithful := Codec.Reads.refine Codec.faithful_word ofId?_id

theorem canonical_chain : Chain.codec.Canonical :=
  Codec.canonical_word.refine fun _ _ found => id_of_ofId? found

theorem faithful_relayedBlock : RelayedBlock.codec.Faithful :=
  Codec.Reads.map (faithful_chain.pair (Codec.faithful_word.pair Codec.faithful_bytes))
    fun _ => rfl

theorem canonical_relayedBlock : RelayedBlock.codec.Canonical :=
  (canonical_chain.pair (Codec.canonical_word.pair Codec.canonical_bytes)).map fun _ => rfl

theorem faithful_relayedTransaction : RelayedTransaction.codec.Faithful :=
  Codec.Reads.map (faithful_chain.pair (Codec.faithful_bytes.pair Codec.faithful_bytes))
    fun _ => rfl

theorem canonical_relayedTransaction : RelayedTransaction.codec.Canonical :=
  (canonical_chain.pair (Codec.canonical_bytes.pair Codec.canonical_bytes)).map fun _ => rfl

/-- What a reader finds wrong with an entry: only signed transactions have faults. -/
def LedgerEntry.fault : LedgerEntry → Option WireError
  | .block _ => none
  | .relayed _ => none
  | .signed t => t.body.action.fault

theorem reads_ledgerEntry : LedgerEntry.codec.Reads LedgerEntry.fault := by
  intro entry bs c₁ c₃ written span
  show LedgerEntry.decode.Answers c₁ entry.fault entry c₃
  unfold LedgerEntry.decode
  cases entry with
  | block b =>
    obtain ⟨u, c₂, content, index, behind⟩ := variant_of_spans written span
    exact index.bind (faithful_relayedBlock content behind).map
  | relayed t =>
    obtain ⟨u, c₂, content, index, behind⟩ := variant_of_spans written span
    exact index.bind (faithful_relayedTransaction content behind).map
  | signed t =>
    obtain ⟨u, c₂, content, index, behind⟩ := variant_of_spans written span
    exact index.bind (reads_signed content behind).map

theorem canonical_ledgerEntry : LedgerEntry.codec.Canonical := by
  intro entry c₁ c₃ read
  change LedgerEntry.decode c₁ = _ at read
  unfold LedgerEntry.decode at read
  obtain ⟨index, c₂, first, rest⟩ := Decoder.bind_eq_ok.mp read
  have before := spans_of_decodeVariant first
  split at rest
  · rename_i block
    subst block
    obtain ⟨b, bs, rfl, written, span⟩ := canonical_relayedBlock.variant before rest
    exact ⟨bs, written, span⟩
  · split at rest
    · rename_i relayed
      subst relayed
      obtain ⟨t, bs, rfl, written, span⟩ := canonical_relayedTransaction.variant before rest
      exact ⟨bs, written, span⟩
    · split at rest
      · rename_i signed
        subst signed
        obtain ⟨t, bs, rfl, written, span⟩ := canonical_signed.variant before rest
        exact ⟨bs, written, span⟩
      · exact absurd rest Decoder.fail_eq_ok

end MoveWallet.Transaction
