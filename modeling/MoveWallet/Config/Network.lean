/-
# MoveWallet.Config.Network — the native networks

Each network has a chain id, which every transaction carries, and the endpoint of a public node.
Short names are accepted beside the full ones.
-/
import MoveWallet.Bech32

namespace MoveWallet.Config

set_option autoImplicit false

open MoveWallet.Bech32 (lower)

/-! ## Faults -/

/-- Why there is no configuration. -/
inductive ConfigError where
  | unreadable (path reason : String)
  | malformed
  | unknownNetwork (name : String)
  deriving DecidableEq, Repr

namespace ConfigError

/-- The wording of a fault. -/
def message : ConfigError → String
  | unreadable path reason => "failed to read config " ++ path ++ ": " ++ reason
  | malformed => "invalid config"
  | unknownNetwork name => "unknown network '" ++ name ++ "'"

/-- The faults that a fault stems from. -/
def causes : ConfigError → List String
  | unreadable _ reason => [reason]
  | _ => []

end ConfigError

/-! ## Networks -/

/-- A native network. -/
inductive Network where
  | localnet
  | devnet
  | testnet
  | mainnet
  deriving DecidableEq, Repr

namespace Network

/-- The network used where none is chosen. -/
def standard : Network := .localnet

/-- The name of a network. -/
def name : Network → String
  | .localnet => "localnet"
  | .devnet => "devnet"
  | .testnet => "testnet"
  | .mainnet => "mainnet"

/-- The number of a network. -/
def chainId : Network → UInt64
  | .localnet => 4
  | .devnet => 3
  | .testnet => 2
  | .mainnet => 1

/-- The endpoint of a public node. -/
def rpcUrl : Network → String
  | .localnet => "http://127.0.0.1:6767"
  | .devnet => "https://dev-seed.rooch.network"
  | .testnet => "https://test-seed.rooch.network"
  | .mainnet => "https://main-seed.rooch.network"

/-- The network with a number. -/
def ofChainId? (id : UInt64) : Option Network :=
  if id = 4 then some .localnet
  else if id = 3 then some .devnet
  else if id = 2 then some .testnet
  else if id = 1 then some .mainnet
  else none

/-- Exactly the number of a network is read as it. -/
theorem ofChainId?_eq_some_iff {id : UInt64} {n : Network} :
    ofChainId? id = some n ↔ id = n.chainId := by
  unfold ofChainId?
  constructor
  · intro found
    repeat' split at found
    all_goals cases found <;> assumption
  · rintro rfl
    cases n <;> rfl

/-- The network with an exact name, full or short. -/
def ofName? : String → Option Network
  | "localnet" => some .localnet
  | "local" => some .localnet
  | "devnet" => some .devnet
  | "dev" => some .devnet
  | "testnet" => some .testnet
  | "test" => some .testnet
  | "mainnet" => some .mainnet
  | "main" => some .mainnet
  | _ => none

/-- The network with a name in any case. -/
def parse (text : String) : Except ConfigError Network :=
  match ofName? (String.ofList (text.toList.map lower)) with
  | some n => .ok n
  | none => .error (.unknownNetwork text)

end Network

end MoveWallet.Config
