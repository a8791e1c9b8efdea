/-
# MoveWallet.Config.Settings — what a client is configured to do

Settings are read from a document whose fields all have a standard value.  Unknown fields do not
matter, a known field may not stand twice, and each field has one kind of value.  Writing leaves out
the two overrides that are not set.
-/
import MoveWallet.Auth.SignedMessage
import MoveWallet.Config.Network
import MoveWallet.Document.Field
import MoveWallet.Document.Json
import MoveWallet.Document.Toml
import MoveWallet.Transaction.Body

namespace MoveWallet.Config

set_option autoImplicit false

open MoveWallet.Auth (SignMode)
open MoveWallet.Document

/-- The configuration of a client. -/
structure Settings where
  network : Network := Network.standard
  rpcUrlOverride : Option String := none
  chainIdOverride : Option UInt64 := none
  bitcoinNetwork : Bitcoin.Network := Bitcoin.Network.standard
  maxGas : UInt64 := Transaction.standardMaxGas
  signMode : SignMode := .hash
  jsonLogs : Bool := false
  deriving DecidableEq

namespace Settings

/-- The settings where nothing is chosen. -/
def standard : Settings := {}

/-- The endpoint: the network's, unless another is set. -/
def rpcUrl (s : Settings) : String := s.rpcUrlOverride.getD s.network.rpcUrl

/-- The chain id: the network's, unless another is set. -/
def chainId (s : Settings) : UInt64 := s.chainIdOverride.getD s.network.chainId

/-! ## Reading -/

/-- The native network that a value names. -/
def readNetwork (style : Style) (v : Value) : Option Network :=
  (v.name? style).bind Network.ofName?

/-- The Bitcoin network that a value names. -/
def readBitcoinNetwork (style : Style) (v : Value) : Option Bitcoin.Network :=
  (v.name? style).bind Bitcoin.Network.ofName?

/-- The sign mode that a value names. -/
def readSignMode (style : Style) (v : Value) : Option SignMode :=
  (v.name? style).bind SignMode.ofName?

/-- Whether logs are JSON, from the fields for logging in a table or in their order. -/
def readLogging (v : Value) : Option Bool :=
  match v with
  | .list items => if items.length ≤ 1 then itemOr? Value.bool? false 0 items else none
  | v => v.entries?.bind (fieldOr? Value.bool? false "json_format")

/-- The settings in a table. -/
def ofEntries? (style : Style) (es : Entries) : Option Settings := do
  let network ← fieldOr? (readNetwork style) .standard "network" es
  let rpcUrl ← fieldOr? (optional? style Value.text?) none "rpc_url" es
  let chainId ← fieldOr? (optional? style Value.word?) none "chain_id" es
  let bitcoinNetwork ← fieldOr? (readBitcoinNetwork style) .standard "bitcoin_network" es
  let maxGas ← fieldOr? Value.word? Transaction.standardMaxGas "max_gas_amount" es
  let signMode ← fieldOr? (readSignMode style) .hash "bitcoin_sign_with" es
  let jsonLogs ← fieldOr? readLogging false "logging" es
  return ⟨network, rpcUrl, chainId, bitcoinNetwork, maxGas, signMode, jsonLogs⟩

/-- The settings in a list, field after field.  The first three are there, and none more than all. -/
def ofItems? (style : Style) (items : List Value) : Option Settings := do
  if items.length < 3 || 7 < items.length then none
  else
    let network ← itemOr? (readNetwork style) .standard 0 items
    let rpcUrl ← itemOr? (optional? style Value.text?) none 1 items
    let chainId ← itemOr? (optional? style Value.word?) none 2 items
    let bitcoinNetwork ← itemOr? (readBitcoinNetwork style) .standard 3 items
    let maxGas ← itemOr? Value.word? Transaction.standardMaxGas 4 items
    let signMode ← itemOr? (readSignMode style) .hash 5 items
    let jsonLogs ← itemOr? readLogging false 6 items
    return ⟨network, rpcUrl, chainId, bitcoinNetwork, maxGas, signMode, jsonLogs⟩

/-- The settings that a value is. -/
def ofValue? (style : Style) : Value → Option Settings
  | .list items => ofItems? style items
  | v => v.entries?.bind (ofEntries? style)

/-- Reads settings from a TOML document. -/
def ofToml? (text : String) : Option Settings :=
  (Toml.read? text).bind (ofEntries? .emptyTables)

/-- Reads settings from a JSON text. -/
def ofJson? (text : String) : Option Settings := (Json.read? text).bind (ofValue? .nulls)

/-- Reads settings from a TOML document, or a fault. -/
def parse (text : String) : Except ConfigError Settings :=
  match ofToml? text with
  | some s => .ok s
  | none => .error .malformed

/-! ## Writing -/

/-- The fields in order, as JSON has them. -/
def toEntries (s : Settings) : Entries :=
  [("network", Value.text s.network.name)] ++
    (s.rpcUrlOverride.toList.map fun url => ("rpc_url", .text url)) ++
    (s.chainIdOverride.toList.map fun id => ("chain_id", .integer id.toNat)) ++
    [("bitcoin_network", .text s.bitcoinNetwork.name),
      ("max_gas_amount", .integer s.maxGas.toNat),
      ("bitcoin_sign_with", .text s.signMode.name),
      ("logging", .table [("json_format", .bool s.jsonLogs)])]

/-- The settings as a TOML document. -/
def toToml (s : Settings) : String :=
  Toml.line "network" (Toml.quoted s.network.name) ++
    ((s.rpcUrlOverride.map fun url => Toml.line "rpc_url" (Toml.quoted url)).getD "") ++
    ((s.chainIdOverride.map fun id => Toml.line "chain_id" (toString id.toNat)).getD "") ++
    Toml.line "bitcoin_network" (Toml.quoted s.bitcoinNetwork.name) ++
    Toml.line "max_gas_amount" (toString s.maxGas.toNat) ++
    Toml.line "bitcoin_sign_with" (Toml.quoted s.signMode.name) ++
    Toml.header "logging" ++
    Toml.line "json_format" (if s.jsonLogs then "true" else "false")

end Settings

end MoveWallet.Config
