/-
# MoveWallet.Schema.Document — values as documents

Numbers of up to 32 bits are integers, longer ones decimal text, and bytes hex text.  Names, types
and addresses are their text, records are tables, an optional value is null or stands in a table
under `some`, and a pair is a list.  Reading also takes integers for longer numbers, nothing for zero
and for what is empty, and types put together from parts, which may be deeper than types in text.
-/
import MoveWallet.Document.Value
import MoveWallet.Move.TypeTag.Parser
import MoveWallet.Schema.Basic
import MoveWallet.Text.Numeral

namespace MoveWallet

set_option autoImplicit false

open MoveWallet.Account
open MoveWallet.Auth
open MoveWallet.Bytes.Fixed
open MoveWallet.Document
open MoveWallet.Move
open MoveWallet.Text
open MoveWallet.Transaction
open MoveWallet.Wire (Width)

/-! ## Faults -/

/-- Why a document is no value of a schema: it has another shape, or a text in it is wrong. -/
inductive DocumentError where
  | shape
  | address (e : AddressError)
  | move (e : MoveError)
  deriving DecidableEq

namespace Document

/-- A reader of documents. -/
abbrev Reader (α : Type) : Type := Value → Except DocumentError α

/-- The value, or a document of another shape. -/
def ofOption {α : Type} : Option α → Except DocumentError α
  | some a => .ok a
  | none => .error .shape

/-- An answer that may fail for an address. -/
def ofAddress {α : Type} : Except AddressError α → Except DocumentError α
  | .ok a => .ok a
  | .error e => .error (.address e)

/-- An answer that may fail for a name or a type. -/
def ofMove {α : Type} : Except MoveError α → Except DocumentError α
  | .ok a => .ok a
  | .error e => .error (.move e)

/-! ## Reading parts -/

/-- The value under a key of a table; null if there is none. -/
def Value.get (v : Value) (key : String) : Value :=
  match v with
  | .table es => (es.lookup key).getD .null
  | _ => .null

/-- There is a value under a key. -/
def Value.has (v : Value) (key : String) : Bool :=
  match v.get key with
  | .null => false
  | _ => true

/-- A text. -/
def readText : Reader String
  | .text s => .ok s
  | _ => .error .shape

/-- A truth value; nothing for false. -/
def readBool : Reader Bool
  | .bool b => .ok b
  | .null => .ok false
  | _ => .error .shape

/-- A number below a limit, as an integer or decimal text; nothing for zero. -/
def readBelow (limit : Nat) : Reader Nat
  | .null => .ok 0
  | .integer n => if 0 ≤ n && n < limit then .ok n.toNat else .error .shape
  | .text s => ofOption (Numeral.readBelow limit s).toOption
  | _ => .error .shape

/-- A 64-bit number. -/
def readWord : Reader UInt64 := fun v => (readBelow UInt64.size v).map UInt64.ofNat

/-- Bytes in hex; nothing for no bytes. -/
def readBytes : Reader (List UInt8)
  | .null => .ok []
  | .text s => ofOption (Hex.decode s).toOption
  | _ => .error .shape

/-- A list; nothing for the empty one. -/
def readList {α : Type} (read : Reader α) : Reader (List α)
  | .null => .ok []
  | .list vs => vs.mapM read
  | _ => .error .shape

/-- A value in its text. -/
def readParsed {α : Type} (parse : String → Except DocumentError α) : Reader α := fun v => do
  let s ← readText v
  parse s

/-- An address. -/
def readAddress : Reader Address := readParsed fun s => ofAddress (Address.parse s)

/-- An identifier. -/
def readIdentifier : Reader Identifier := readParsed fun s => ofMove (Identifier.parse s)

/-! ## Reading types -/

mutual

/-- How deep tables and lists stand inside a value. -/
def Value.depth : Value → Nat
  | .list vs => depthOfItems vs + 1
  | .table es => depthOfEntries es + 1
  | .spread _ es => depthOfEntries es + 1
  | _ => 0

/-- The greatest depth of items. -/
def depthOfItems : List Value → Nat
  | [] => 0
  | v :: vs => max v.depth (depthOfItems vs)

/-- The greatest depth of the values of entries. -/
def depthOfEntries : List (String × Value) → Nat
  | [] => 0
  | (_, v) :: es => max v.depth (depthOfEntries es)

end

/-- A type in a document of at most a depth: its text, or a table of its parts. -/
def readTypeTagWithin : Nat → Reader TypeTag
  | 0 => readParsed fun s => ofMove (TypeTag.parse s)
  | depth + 1 => fun v => do
      let inner := readTypeTagWithin depth
      if v.has "vector" then
        let t ← inner (v.get "vector")
        return .vector t
      else if v.has "nest" then
        let n ← readBelow UInt32.size (v.get "nest")
        let t ← inner (v.get "of")
        return t.nest n
      else if v.has "struct" then
        let s := v.get "struct"
        let a ← readAddress (s.get "address")
        let m ← readIdentifier (s.get "module")
        let n ← readIdentifier (s.get "name")
        let ps ← readList inner (s.get "type_params")
        return .struct a m n ps
      else readParsed (fun s => ofMove (TypeTag.parse s)) v

/-- A type. -/
def readTypeTag : Reader TypeTag := fun v => readTypeTagWithin v.depth v

/-! ## Reading records -/

/-- A script and its arguments. -/
def readScriptCall : Reader ScriptCall := fun v => do
  let code ← readBytes (v.get "code")
  let typeArgs ← readList readTypeTag (v.get "ty_args")
  let args ← readList readBytes (v.get "args")
  return ⟨code, typeArgs, args⟩

/-- A function and its arguments. -/
def readFunctionCall : Reader FunctionCall := fun v => do
  let function ← readParsed (fun s => ofMove (FunctionId.parse s)) (v.get "function_id")
  let typeArgs ← readList readTypeTag (v.get "ty_args")
  let args ← readList readBytes (v.get "args")
  return ⟨function, typeArgs, args⟩

/-- An action, under the name of its kind. -/
def readAction : Reader Action := fun v =>
  if v.has "script" then (readScriptCall (v.get "script")).map .script
  else if v.has "function" then (readFunctionCall (v.get "function")).map .function
  else if v.has "modules" then (readList readBytes (v.get "modules")).map .modules
  else .error .shape

/-- The body of a transaction. -/
def readBody : Reader Body := fun v => do
  let sender ← readAddress (v.get "sender")
  let sequenceNumber ← readWord (v.get "sequence_number")
  let chainId ← readWord (v.get "chain_id")
  let maxGas ← readWord (v.get "max_gas_amount")
  let action ← readAction (v.get "action")
  return ⟨sender, sequenceNumber, chainId, maxGas, action⟩

/-- A proof of authorization. -/
def readAuthenticator : Reader Authenticator := fun v => do
  let id ← readWord (v.get "auth_validator_id")
  let payload ← readBytes (v.get "payload")
  return ⟨id, payload⟩

/-- The payload of a Bitcoin proof. -/
def readPayload : Reader BitcoinPayload := fun v => do
  let signature ← readBytes (v.get "signature")
  let head ← readBytes (v.get "message_prefix")
  let info ← readBytes (v.get "message_info")
  let publicKey ← readBytes (v.get "public_key")
  let fromAddress ← readBytes (v.get "from_address")
  return ⟨signature, head, info, publicKey, fromAddress⟩

/-- A transaction. -/
def readSigned : Reader Signed := fun v => do
  let body ← readBody (v.get "data")
  let authenticator ← readAuthenticator (v.get "authenticator")
  return ⟨body, authenticator⟩

/-- A chain by its number. -/
def readChain : Reader Chain := fun v => do
  let id ← readWord v
  ofOption (Chain.ofId? id)

/-- A relayed block. -/
def readRelayedBlock : Reader RelayedBlock := fun v => do
  let chain ← readChain (v.get "chain_id")
  let height ← readWord (v.get "block_height")
  let hash ← readBytes (v.get "block_hash")
  return ⟨chain, height, hash⟩

/-- A relayed transaction. -/
def readRelayedTransaction : Reader RelayedTransaction := fun v => do
  let chain ← readChain (v.get "chain_id")
  let hash ← readBytes (v.get "block_hash")
  let id ← readBytes (v.get "txid")
  return ⟨chain, hash, id⟩

/-- An entry of the ledger, under the name of its kind. -/
def readLedgerEntry : Reader LedgerEntry := fun v =>
  if v.has "l1_block" then (readRelayedBlock (v.get "l1_block")).map .block
  else if v.has "l1_tx" then (readRelayedTransaction (v.get "l1_tx")).map .relayed
  else if v.has "l2_tx" then (readSigned (v.get "l2_tx")).map .signed
  else .error .shape

/-! ## Writing parts and records -/

/-- Bytes in hex. -/
def ofBytes (bs : List UInt8) : Value := .text (Hex.encode bs)

/-- A 64-bit number in decimal text. -/
def ofWord (n : UInt64) : Value := .text (toString n.toNat)

/-- The arguments of a call. -/
def ofArguments (typeArgs : List TypeTag) (args : List (List UInt8)) : Entries :=
  [("ty_args", .list (typeArgs.map fun t => .text t.toText)), ("args", .list (args.map ofBytes))]

/-- A script and its arguments. -/
def ofScriptCall (c : ScriptCall) : Value :=
  .table (("code", ofBytes c.code) :: ofArguments c.typeArgs c.args)

/-- A function and its arguments. -/
def ofFunctionCall (c : FunctionCall) : Value :=
  .table (("function_id", .text c.function.toText) :: ofArguments c.typeArgs c.args)

/-- An action, under the name of its kind. -/
def ofAction : Action → Value
  | .script c => .table [("script", ofScriptCall c)]
  | .function c => .table [("function", ofFunctionCall c)]
  | .modules codes => .table [("modules", .list (codes.map ofBytes))]

/-- The body of a transaction. -/
def ofBody (b : Body) : Value :=
  .table
    [("sender", .text b.sender.toHex), ("sequence_number", ofWord b.sequenceNumber),
      ("chain_id", ofWord b.chainId), ("max_gas_amount", ofWord b.maxGas),
      ("action", ofAction b.action)]

/-- A proof of authorization. -/
def ofAuthenticator (a : Authenticator) : Value :=
  .table [("auth_validator_id", ofWord a.validatorId), ("payload", ofBytes a.payload)]

/-- The payload of a Bitcoin proof. -/
def ofPayload (p : BitcoinPayload) : Value :=
  .table
    [("signature", ofBytes p.signature), ("message_prefix", ofBytes p.head),
      ("message_info", ofBytes p.info), ("public_key", ofBytes p.publicKey),
      ("from_address", ofBytes p.fromAddress)]

/-- A transaction. -/
def ofSigned (t : Signed) : Value :=
  .table [("data", ofBody t.body), ("authenticator", ofAuthenticator t.authenticator)]

/-- A relayed block. -/
def ofRelayedBlock (b : RelayedBlock) : Value :=
  .table
    [("chain_id", .text b.chain.name), ("block_height", ofWord b.height),
      ("block_hash", ofBytes b.hash)]

/-- A relayed transaction. -/
def ofRelayedTransaction (t : RelayedTransaction) : Value :=
  .table
    [("chain_id", .text t.chain.name), ("block_hash", ofBytes t.blockHash),
      ("txid", ofBytes t.id)]

/-- An entry of the ledger, under the name of its kind. -/
def ofLedgerEntry : LedgerEntry → Value
  | .block b => .table [("l1_block", ofRelayedBlock b)]
  | .relayed t => .table [("l1_tx", ofRelayedTransaction t)]
  | .signed t => .table [("l2_tx", ofSigned t)]

end Document

open MoveWallet.Document

/-! ## Values of a schema -/

namespace Leaf

/-- Reads a value of a leaf. -/
def read : (l : Leaf) → Reader l.Value
  | uint w => fun v => (readBelow w.size v).map (BitVec.ofNat w.bits)
  | bool => readBool
  | text => readText
  | uleb128 => fun v => (readBelow UInt32.size v).map UInt32.ofNat
  | bytes => readBytes
  | fixed n => fun v => do
      let bs ← readBytes v
      ofOption (FixedBytes.ofList? n bs)
  | address => readAddress
  | digest => readParsed fun s => ofAddress (Digest32.parse s)
  | objectId => readParsed fun s => ofAddress (ObjectId.parse s)
  | identifier => readIdentifier
  | typeTag => readTypeTag
  | structTag => readParsed fun s => ofMove (StructTag.parse s)
  | moduleId => readParsed fun s => ofMove (ModuleId.parse s)
  | functionId => readParsed fun s => ofMove (FunctionId.parse s)
  | scriptCall => readScriptCall
  | functionCall => readFunctionCall
  | action => readAction
  | body => readBody
  | authenticator => readAuthenticator
  | bitcoinPayload => readPayload
  | signed => readSigned
  | chain => readChain
  | relayedBlock => readRelayedBlock
  | relayedTransaction => readRelayedTransaction
  | ledgerEntry => readLedgerEntry

/-- Writes a number of a width. -/
def writeUint (w : Width) (n : BitVec w.bits) : Document.Value :=
  if w.bits ≤ 32 then .integer n.toNat else .text (toString n.toNat)

/-- Writes a value of a leaf. -/
def write : (l : Leaf) → l.Value → Document.Value
  | uint w, n => writeUint w n
  | bool, b => .bool b
  | text, s => .text s
  | uleb128, n => .integer (UInt32.toNat n)
  | bytes, bs => ofBytes bs
  | fixed _, a => ofBytes (FixedBytes.toList a)
  | address, a => .text (Address.toHex a)
  | digest, d => .text (Digest32.toText d)
  | objectId, id => .text (ObjectId.toText id)
  | identifier, i => .text (Identifier.text i)
  | typeTag, t => .text (TypeTag.toText t)
  | structTag, s => .text (StructTag.toText s)
  | moduleId, m => .text (ModuleId.toText m)
  | functionId, f => .text (FunctionId.toText f)
  | scriptCall, c => ofScriptCall c
  | functionCall, c => ofFunctionCall c
  | action, a => ofAction a
  | body, b => ofBody b
  | authenticator, a => ofAuthenticator a
  | bitcoinPayload, p => ofPayload p
  | signed, t => ofSigned t
  | chain, c => .text (Chain.name c)
  | relayedBlock, b => ofRelayedBlock b
  | relayedTransaction, t => ofRelayedTransaction t
  | ledgerEntry, e => ofLedgerEntry e

end Leaf

namespace Schema

/-- Reads a value of a schema. -/
def read : (s : Schema) → Reader s.Value
  | leaf l => l.read
  | vec item => readList item.read
  | option item => fun v =>
      match v with
      | .null => .ok none
      | v => (item.read (v.get "some")).map some
  | box item => item.read
  | pair first second => fun v =>
      match v with
      | .list [a, b] => do
          let x ← first.read a
          let y ← second.read b
          return (x, y)
      | _ => .error .shape

/-- Writes a value of a schema. -/
def write : (s : Schema) → s.Value → Document.Value
  | leaf l, v => l.write v
  | vec item, vs => .list (List.map item.write vs)
  | option item, v =>
      match (v : Option item.Value) with
      | none => .null
      | some a => .table [("some", item.write a)]
  | box item, v => item.write v
  | pair first second, p => .list [first.write p.1, second.write p.2]

end Schema

end MoveWallet
