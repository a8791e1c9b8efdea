/-
# MoveWallet.Command.Fault — why a command failed, and how that is reported

A report is the wording of the fault, followed by the faults that it stems from: one alone is
indented, several are numbered.
-/
import MoveWallet.Command.TypedArgument
import MoveWallet.Config.Logging
import MoveWallet.Config.Network
import MoveWallet.Transaction.Signed

namespace MoveWallet.Command

set_option autoImplicit false

open MoveWallet.Auth (AuthError)
open MoveWallet.Config (ConfigError LoggingError)
open MoveWallet.Move (MoveError)
open MoveWallet.Text.Separator (splitChar)
open MoveWallet.Transaction (TransactionError)
open MoveWallet.Wire (WireError)

/-- The variable of the environment that may hold a secret key. -/
def secretVariable : String := "ROOCH_SECRET_KEY"

/-- Why a command failed. -/
inductive Fault where
  | config (e : ConfigError)
  | logging (e : LoggingError)
  | bitcoin (e : Bitcoin.AddressError)
  | twoKeySources
  | noKeySource
  | secretNotSet
  | unreadableKey (reason : String)
  | auth (e : AuthError)
  | move (e : MoveError)
  | argument (e : ArgumentError)
  | needsSecp256k1
  | transaction (e : TransactionError)
  | codec (e : WireError)
  deriving DecidableEq

namespace Fault

/-- The wording of a fault. -/
def message : Fault → String
  | config e => e.message
  | logging e => e.message
  | bitcoin e => e.message
  | twoKeySources => "must either set key file or key from env, not both"
  | noKeySource => "no key source given, use --key-file or --key-from-env"
  | secretNotSet => secretVariable ++ " is not set"
  | unreadableKey reason => reason
  | auth e => e.message
  | move e => e.message
  | argument e => e.message
  | needsSecp256k1 => "--bitcoin needs a secp256k1 key"
  | transaction e => e.message
  | codec e => e.message

/-- The faults that a fault stems from, the nearest first. -/
def causes : Fault → List String
  | config e => e.causes
  | bitcoin e => e.causes
  | auth e => e.causes
  | move e => e.causes
  | argument e => e.causes
  | transaction e => e.causes
  | _ => []

/-- A text whose first line follows `first`, and all others `other`. -/
def indent (first other text : String) : String :=
  match splitChar '\n' text.toList with
  | [] => first
  | line :: lines =>
      first ++ String.ofList line ++
        String.join (lines.map fun l => "\n" ++ other ++ String.ofList l)

/-- Causes with their numbers from `n` on. -/
def numbered (n : Nat) : List String → String
  | [] => ""
  | cause :: causes =>
      let number := toString n
      let first := String.ofList (List.replicate (5 - number.length) ' ') ++ number ++ ": "
      "\n" ++ indent first "       " cause ++ numbered (n + 1) causes

/-- The whole report. -/
def report (f : Fault) : String :=
  match f.causes with
  | [] => f.message
  | [cause] => f.message ++ "\n\nCaused by:\n" ++ indent "    " "    " cause
  | causes => f.message ++ "\n\nCaused by:" ++ numbered 0 causes

/-- An answer that failed for a reason of another layer. -/
def lift {α ε : Type} (wrap : ε → Fault) : Except ε α → Except Fault α
  | .ok a => .ok a
  | .error e => .error (wrap e)

end Fault

end MoveWallet.Command
