/-
# MoveWallet.Command.Summary — what commands print about keys, addresses and transactions

Every summary is a table whose keys are in alphabetical order.  An address is taken for a native one
if it can be read as such, else for a Nostr one if it begins like one, else for a Bitcoin one.
-/
import MoveWallet.Auth.Keypair
import MoveWallet.Document.Json
import MoveWallet.Text.Blank
import MoveWallet.Transaction.Signed

namespace MoveWallet.Command

set_option autoImplicit false

open MoveWallet.Account
open MoveWallet.Auth
open MoveWallet.Bech32 (lower)
open MoveWallet.Document
open MoveWallet.Text
open MoveWallet.Text.Separator
open MoveWallet.Transaction
open MoveWallet.Wire (WireError)

/-- The lines that print a table. -/
def printTable (es : Entries) : String := Json.write 0 (.table es) ++ "\n"

/-! ## Keys -/

/-- The addresses of a key beside its native one. -/
def foreignAddresses (k : Keypair) (network : Bitcoin.Network) : Entries :=
  match k.secretNumber? with
  | none => []
  | some secret =>
      let view := secret.view network
      [("bitcoin_address", .text view.bitcoin.text), ("nostr_address", .text view.nostr.text)]

/-- The public key of a key and all its addresses. -/
def keySummary (k : Keypair) (network : Bitcoin.Network) : Entries :=
  foreignAddresses k network ++
    [("public_key", .text k.publicKey.toText),
      ("rooch_address", .text k.account.toHexLong),
      ("rooch_bech32", .text k.account.toBech32),
      ("scheme", .text k.scheme.name)]

/-- The summary of a new key, with its secret. -/
def newKeySummary (k : Keypair) (network : Bitcoin.Network) : Entries :=
  keySummary k network ++ [("secret_key", .text k.exportText)]

/-! ## Addresses -/

/-- An address of one of the kinds. -/
inductive AnyAddress where
  | native (a : Address)
  | nostr (a : Nostr.Address)
  | bitcoin (a : Bitcoin.Address)
  deriving DecidableEq

namespace AnyAddress

/-- A text that begins like a Nostr address, in any case. -/
def looksLikeNostr (s : List Char) : Bool :=
  (dropPrefix? Nostr.Address.hrp.toList (s.map lower)).isSome

/-- The address in a text. -/
def parse (text : String) (hint : Bitcoin.Network) : Except Bitcoin.AddressError AnyAddress :=
  let s := Blank.trim text.toList
  let trimmed := String.ofList s
  match Address.parse trimmed with
  | .ok a => .ok (native a)
  | .error _ =>
      if looksLikeNostr s then (Nostr.Address.parse trimmed).map nostr
      else (Bitcoin.Address.parse trimmed hint).map bitcoin

/-- The native address behind an address. -/
def account : AnyAddress → Address
  | native a => a
  | nostr a => a.account
  | bitcoin a => a.account

/-- The forms of an address. -/
def summary (a : AnyAddress) (network : Bitcoin.Network) : Except Bitcoin.AddressError Entries :=
  let account : Entries :=
    [("rooch_address", .text a.account.toHexLong), ("rooch_bech32", .text a.account.toBech32)]
  match a with
  | native _ => .ok (("kind", .text "rooch") :: account)
  | nostr n => do
      let b ← n.toBitcoin network
      return [("bitcoin_address", .text b.text), ("kind", .text "nostr"),
        ("nostr_address", .text n.text)] ++ account
  | bitcoin b =>
      .ok ([("bitcoin_address", .text b.text), ("kind", .text "bitcoin"),
        ("network", .text b.network.name)] ++ account ++
        [("wrapped_bytes", .text (Hex.encode b.wrapped))])

end AnyAddress

/-! ## Transactions -/

/-- What a transaction says of itself. -/
def transactionSummary (t : Signed) (hash : Digest32) : Entries :=
  [("auth_validator_id", .integer t.authenticator.validatorId.toNat),
    ("chain_id", .integer t.body.chainId.toNat),
    ("hash", .text hash.toText),
    ("max_gas_amount", .integer t.body.maxGas.toNat),
    ("sender", .text t.body.sender.toHexLong),
    ("sequence_number", .integer t.body.sequenceNumber.toNat)]

end MoveWallet.Command
