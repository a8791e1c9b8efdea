/-
# MoveWallet.Schema.Basic — the written forms as data

A `Schema` says what is written: a leaf, such as a number, an address or a whole transaction, or
lists, optional values, boxes and pairs of other schemas, to any depth.  `Value` is the type of
values of a schema and `codec` their written form, so a statement about all schemas is one about
every codec of this library, and is proved by induction.
-/
import MoveWallet.Account.ObjectId
import MoveWallet.Transaction.Ledger

namespace MoveWallet

set_option autoImplicit false

open MoveWallet.Account
open MoveWallet.Auth
open MoveWallet.Bytes.Fixed
open MoveWallet.Move
open MoveWallet.Transaction
open MoveWallet.Wire

/-- The leaves: values that are not made of other schemas. -/
inductive Leaf where
  | uint (w : Width)
  | bool
  | text
  | uleb128
  | bytes
  | fixed (n : Nat)
  | address
  | digest
  | objectId
  | identifier
  | typeTag
  | structTag
  | moduleId
  | functionId
  | scriptCall
  | functionCall
  | action
  | body
  | authenticator
  | bitcoinPayload
  | signed
  | chain
  | relayedBlock
  | relayedTransaction
  | ledgerEntry
  deriving DecidableEq, Repr

namespace Leaf

/-- The values of a leaf. -/
def Value : Leaf → Type
  | uint w => BitVec w.bits
  | bool => Bool
  | text => String
  | uleb128 => UInt32
  | bytes => List UInt8
  | fixed n => FixedBytes n
  | address => Address
  | digest => Digest32
  | objectId => ObjectId
  | identifier => Identifier
  | typeTag => TypeTag
  | structTag => StructTag
  | moduleId => ModuleId
  | functionId => FunctionId
  | scriptCall => ScriptCall
  | functionCall => FunctionCall
  | action => Action
  | body => Body
  | authenticator => Authenticator
  | bitcoinPayload => BitcoinPayload
  | signed => Signed
  | chain => Chain
  | relayedBlock => RelayedBlock
  | relayedTransaction => RelayedTransaction
  | ledgerEntry => LedgerEntry

/-- The written form of a leaf. -/
def codec : (l : Leaf) → Codec l.Value
  | uint w => Codec.uint w
  | bool => Codec.bool
  | text => Codec.text
  | uleb128 => Codec.uleb128
  | bytes => Codec.bytes
  | fixed n => Codec.fixed n
  | address => Address.codec
  | digest => Digest32.codec
  | objectId => ObjectId.codec
  | identifier => Identifier.codec
  | typeTag => TypeTag.codec
  | structTag => StructTag.codec
  | moduleId => ModuleId.codec
  | functionId => FunctionId.codec
  | scriptCall => ScriptCall.codec
  | functionCall => FunctionCall.codec
  | action => Action.codec
  | body => Body.codec
  | authenticator => Authenticator.codec
  | bitcoinPayload => BitcoinPayload.codec
  | signed => Signed.codec
  | chain => Chain.codec
  | relayedBlock => RelayedBlock.codec
  | relayedTransaction => RelayedTransaction.codec
  | ledgerEntry => LedgerEntry.codec

end Leaf

/-- What is written: leaves and their compositions. -/
inductive Schema where
  | leaf (l : Leaf)
  | vec (item : Schema)
  | option (item : Schema)
  | box (item : Schema)
  | pair (first second : Schema)
  deriving DecidableEq, Repr

namespace Schema

/-- The values of a schema. -/
def Value : Schema → Type
  | leaf l => l.Value
  | vec item => List item.Value
  | option item => Option item.Value
  | box item => item.Value
  | pair first second => first.Value × second.Value

/-- The written form of a schema's values.  A box is written as what it holds. -/
def codec : (s : Schema) → Codec s.Value
  | leaf l => l.codec
  | vec item => Codec.vec item.codec
  | option item => Codec.option item.codec
  | box item => item.codec
  | pair first second => Codec.pair first.codec second.codec

end Schema

end MoveWallet
