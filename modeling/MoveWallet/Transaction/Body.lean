/-
# MoveWallet.Transaction.Body — the part of a transaction that is signed

A body holds the sender, three counters and an action.  Its identity is the SHA3-256 digest of its
bytes, which is what authenticators sign.
-/
import MoveWallet.Auth.Authenticator
import MoveWallet.Transaction.Action

namespace MoveWallet.Transaction

set_option autoImplicit false

open MoveWallet.Account
open MoveWallet.Auth (AuthError)
open MoveWallet.Move (MoveError)
open MoveWallet.Text.Hex (HexError)
open MoveWallet.Wire

/-! ## Faults -/

/-- Why a transaction could not be built, read or accepted. -/
inductive TransactionError where
  | move (e : MoveError)
  | badHex (e : HexError)
  | senderMismatch (sender signer : Address)
  | codec (e : WireError)
  | auth (e : AuthError)
  deriving DecidableEq

namespace TransactionError

/-- The wording of a fault. -/
def message : TransactionError → String
  | move e => e.message
  | badHex e => "invalid transaction hex: " ++ e.message
  | senderMismatch sender signer =>
      "transaction sender " ++ sender.toHex ++ " does not match signer " ++ signer.toHex
  | codec e => "codec: " ++ e.message
  | auth e => "crypto: " ++ e.message

/-- The faults that a fault stems from, the nearest first. -/
def causes : TransactionError → List String
  | move e => e.causes
  | codec e => [e.message]
  | auth e => e.message :: e.causes
  | _ => []

/-- An answer of the authentication layer. -/
def ofAuth {α : Type} : Except AuthError α → Except TransactionError α
  | .ok a => .ok a
  | .error e => .error (auth e)

/-- An answer of the wire layer. -/
def ofWire {α : Type} : Except WireError α → Except TransactionError α
  | .ok a => .ok a
  | .error e => .error (codec e)

end TransactionError

/-! ## Bodies -/

/-- The gas limit where none is chosen. -/
def standardMaxGas : UInt64 := 50000000

/-- The part of a transaction that is signed. -/
structure Body where
  sender : Address
  sequenceNumber : UInt64
  chainId : UInt64
  maxGas : UInt64
  action : Action
  deriving DecidableEq

namespace Body

/-- The fields in order. -/
def codec : Codec Body :=
  (Address.codec.pair (Codec.word.pair (Codec.word.pair (Codec.word.pair Action.codec)))).map
    (fun (s, n, c, g, a) => ⟨s, n, c, g, a⟩)
    fun b => (b.sender, b.sequenceNumber, b.chainId, b.maxGas, b.action)

/-- The SHA3-256 digest of the bytes. -/
def hash (b : Body) : Except WireError Digest32 := do
  let bs ← codec.encode b
  return Digest32.sha3 bs

end Body

end MoveWallet.Transaction
