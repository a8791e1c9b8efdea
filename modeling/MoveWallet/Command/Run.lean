/-
# MoveWallet.Command.Run — what each command does

A command sees files, one variable of the environment and random bytes, all held by `Surroundings`.
It prints a text or fails.  The configuration is read and the options that override it are applied
before the command begins.
-/
import MoveWallet.Command.Fault
import MoveWallet.Command.Invocation
import MoveWallet.Command.Summary
import MoveWallet.Config.Settings

namespace MoveWallet.Command

set_option autoImplicit false

open MoveWallet.Auth
open MoveWallet.Bytes.Fixed
open MoveWallet.Config
open MoveWallet.Move
open MoveWallet.Text
open MoveWallet.Transaction

/-- What a command sees of the world.  A file is its text, or why it cannot be read. -/
structure Surroundings where
  file : String → Except String String
  secret : Option String
  entropy : FixedBytes 32

namespace Surroundings

/-! ## Settings and keys -/

/-- The settings of an invocation: those of the file, if one is named, and what overrides them. -/
def settings (w : Surroundings) (i : Invocation) : Except Fault Settings := do
  let base ← match i.config with
    | none => pure Settings.standard
    | some path => do
        let text ← Fault.lift (fun reason => .config (.unreadable path reason)) (w.file path)
        Fault.lift .config (Settings.parse text)
  let network ← match i.network with
    | none => pure base.network
    | some name => Fault.lift .config (Network.parse name)
  let bitcoinNetwork ← match i.bitcoinNetwork with
    | none => pure base.bitcoinNetwork
    | some name => Fault.lift .bitcoin (Bitcoin.Network.parse name)
  return { base with network, bitcoinNetwork, jsonLogs := base.jsonLogs || i.jsonLogs }

/-- The text of the secret key that a source names. -/
def secretText (w : Surroundings) (source : KeySource) : Except Fault String :=
  match source.file, source.environment with
  | some _, true => .error .twoKeySources
  | some path, false => Fault.lift .unreadableKey (w.file path)
  | none, true =>
      match w.secret with
      | some text => .ok text
      | none => .error .secretNotSet
  | none, false => .error .noKeySource

/-- The key that a source names. -/
def key (w : Surroundings) (source : KeySource) : Except Fault Keypair := do
  let text ← w.secretText source
  Fault.lift .auth (Keypair.ofExportText (String.ofList (Blank.trim text.toList)))

end Surroundings

/-- The sign mode with a name, or the configured one. -/
def chooseSignMode (s : Settings) : Option String → Except Fault SignMode
  | none => .ok s.signMode
  | some name => Fault.lift .auth (SignMode.parse name)

/-! ## Commands -/

/-- Makes a key and describes it. -/
def generate (w : Surroundings) (s : Settings) (scheme : Option String) : Except Fault String := do
  let scheme ← match scheme with
    | none => pure Scheme.ed25519
    | some name => Fault.lift .auth (Scheme.parse name)
  return printTable (newKeySummary (Keypair.ofEntropy scheme w.entropy) s.bitcoinNetwork)

/-- Describes a key. -/
def inspectKey (w : Surroundings) (s : Settings) (source : KeySource) : Except Fault String := do
  let k ← w.key source
  return printTable (keySummary k s.bitcoinNetwork)

/-- Describes an address. -/
def describeAddress (s : Settings) (text : String) : Except Fault String := do
  let a ← Fault.lift .bitcoin (AnyAddress.parse text s.bitcoinNetwork)
  let summary ← Fault.lift .bitcoin (a.summary s.bitcoinNetwork)
  return printTable summary

/-- The body of the transaction that a request asks for, sent by the owner of a key. -/
def requestedBody (s : Settings) (r : SignRequest) (k : Keypair) : Except Fault Body := do
  let function ← Fault.lift .move (FunctionId.parse r.function)
  let typeArgs ← Fault.lift .move (r.typeArgs.mapM TypeTag.parse)
  let args ← Fault.lift .argument (r.args.mapM TypedArgument.parse)
  return {
    sender := k.account
    sequenceNumber := r.sequenceNumber.getD 0
    chainId := s.chainId
    maxGas := r.maxGas.getD s.maxGas
    action := Action.ofFunction function typeArgs args }

/-- Signs a body as a request asks. -/
def signBody (s : Settings) (r : SignRequest) (k : Keypair) (b : Body) : Except Fault Signed :=
  if r.bitcoin then
    match k.secretNumber? with
    | none => .error .needsSecp256k1
    | some secret => do
        let mode ← chooseSignMode s r.signMode
        Fault.lift .transaction
          (Signed.signBitcoin b secret (r.info.getD "") mode s.bitcoinNetwork)
  else Fault.lift .transaction (Signed.signNative b k)

/-- Signs a call. -/
def sign (w : Surroundings) (s : Settings) (r : SignRequest) : Except Fault String := do
  let k ← w.key r.key
  let b ← requestedBody s r k
  let t ← signBody s r k b
  let text ← Fault.lift .codec t.toHex
  return text ++ "\n"

/-- Checks a transaction and describes it. -/
def verify (s : Settings) (text : String) (signMode : Option String) : Except Fault String := do
  let t ← Fault.lift .transaction (Signed.ofHex (String.ofList (Blank.trim text.toList)))
  let mode ← chooseSignMode s signMode
  Fault.lift .transaction (t.verify mode)
  let hash ← Fault.lift .codec t.body.hash
  return printTable (transactionSummary t hash)

/-- Runs a command. -/
def Request.run (w : Surroundings) (s : Settings) : Request → Except Fault String
  | .generate scheme => Command.generate w s scheme
  | .inspectKey source => Command.inspectKey w s source
  | .address text => describeAddress s text
  | .sign r => Command.sign w s r
  | .verify text signMode => Command.verify s text signMode

/-! ## Programs -/

/-- How the program logs under given settings. -/
def logging (s : Settings) : Logging :=
  { json := s.jsonLogs, toStderr := true }

/-- Runs an invocation. -/
def Invocation.run (w : Surroundings) (i : Invocation) : Except Fault String := do
  let s ← w.settings i
  Fault.lift .logging ((logging s).install false)
  i.request.run w s

/-- How a run of the program ends. -/
inductive Outcome where
  | printed (text : String)
  | failed (f : Fault)
  | misused
  deriving DecidableEq

/-- Runs the program with arguments. -/
def run (w : Surroundings) (args : List String) : Outcome :=
  match Invocation.parse? args with
  | none => .misused
  | some i =>
      match i.run w with
      | .ok text => .printed text
      | .error f => .failed f

end MoveWallet.Command
