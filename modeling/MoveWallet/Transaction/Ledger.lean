/-
# MoveWallet.Transaction.Ledger — what is entered in the ledger

An entry is a block or a transaction relayed from another chain, or a transaction of this one.
-/
import MoveWallet.Transaction.Signed

namespace MoveWallet.Transaction

set_option autoImplicit false

open MoveWallet.Wire

/-! ## Chains -/

/-- A chain that entries come from. -/
inductive Chain where
  | bitcoin
  | ether
  | sui
  | nostr
  | rooch
  deriving DecidableEq, Repr

namespace Chain

/-- The registered number of a chain's coin. -/
def id : Chain → UInt64
  | .bitcoin => 0
  | .ether => 60
  | .sui => 784
  | .nostr => 1237
  | .rooch => 20230101

/-- The chain with a number. -/
def ofId? (id : UInt64) : Option Chain :=
  if id = 0 then some .bitcoin
  else if id = 60 then some .ether
  else if id = 784 then some .sui
  else if id = 1237 then some .nostr
  else if id = 20230101 then some .rooch
  else none

/-- The name of a chain. -/
def name : Chain → String
  | .bitcoin => "bitcoin"
  | .ether => "ether"
  | .sui => "sui"
  | .nostr => "nostr"
  | .rooch => "rooch"

/-- The number. -/
def codec : Codec Chain := Codec.word.refine (.malformedField "multichain id") ofId? id

end Chain

/-! ## Entries -/

/-- A relayed block. -/
structure RelayedBlock where
  chain : Chain
  height : UInt64
  hash : List UInt8
  deriving DecidableEq

/-- A relayed transaction. -/
structure RelayedTransaction where
  chain : Chain
  blockHash : List UInt8
  id : List UInt8
  deriving DecidableEq

/-- Chain, height, hash. -/
def RelayedBlock.codec : Codec RelayedBlock :=
  (Chain.codec.pair (Codec.word.pair Codec.bytes)).map
    (fun (c, n, h) => ⟨c, n, h⟩) fun b => (b.chain, b.height, b.hash)

/-- Chain, hash of the block, number of the transaction. -/
def RelayedTransaction.codec : Codec RelayedTransaction :=
  (Chain.codec.pair (Codec.bytes.pair Codec.bytes)).map
    (fun (c, h, i) => ⟨c, h, i⟩) fun t => (t.chain, t.blockHash, t.id)

/-- An entry of the ledger. -/
inductive LedgerEntry where
  | block (b : RelayedBlock)
  | relayed (t : RelayedTransaction)
  | signed (t : Signed)
  deriving DecidableEq

namespace LedgerEntry

/-- The bytes of an entry: the index of its kind and what it holds. -/
def encode : LedgerEntry → Encoding
  | block b => encodeVariant 0 ++ RelayedBlock.codec.encode b
  | relayed t => encodeVariant 1 ++ RelayedTransaction.codec.encode t
  | signed t => encodeVariant 2 ++ Signed.codec.encode t

/-- Reads an entry. -/
def decode : Decoder LedgerEntry := do
  let index ← decodeVariant
  if index = 0 then
    let b ← RelayedBlock.codec.decode
    return block b
  else if index = 1 then
    let t ← RelayedTransaction.codec.decode
    return relayed t
  else if index = 2 then
    let t ← Signed.codec.decode
    return signed t
  else Decoder.fail (.unknownVariant "LedgerTxData" index)

/-- Entries. -/
def codec : Codec LedgerEntry := ⟨encode, decode⟩

end LedgerEntry

end MoveWallet.Transaction
