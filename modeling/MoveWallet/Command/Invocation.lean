/-
# MoveWallet.Command.Invocation — what the command line asks for

An `Invocation` holds the options that come before the command's name, and the command with its own.
An option takes the next argument as its value, whatever that looks like.  Options of one value stand
at most once, those of several values and switches as often as one likes.  After `--` every argument
stands for itself.  Whatever else is there is refused as a whole.
-/
import MoveWallet.Text.Numeral

namespace MoveWallet.Command

set_option autoImplicit false

open MoveWallet.Text

/-! ## Commands -/

/-- Where a secret key comes from. -/
structure KeySource where
  file : Option String := none
  environment : Bool := false
  deriving DecidableEq, Repr

/-- What a transaction to sign is made of. -/
structure SignRequest where
  key : KeySource
  function : String
  typeArgs : List String := []
  args : List String := []
  sequenceNumber : Option UInt64 := none
  maxGas : Option UInt64 := none
  bitcoin : Bool := false
  info : Option String := none
  signMode : Option String := none
  deriving DecidableEq, Repr

/-- A command. -/
inductive Request where
  | generate (scheme : Option String)
  | inspectKey (key : KeySource)
  | address (text : String)
  | sign (request : SignRequest)
  | verify (transaction : String) (signMode : Option String)
  deriving DecidableEq, Repr

/-- A command and the options for all commands. -/
structure Invocation where
  config : Option String := none
  network : Option String := none
  bitcoinNetwork : Option String := none
  jsonLogs : Bool := false
  request : Request
  deriving DecidableEq, Repr

/-! ## Arguments -/

/-- What an option does with the argument after it. -/
inductive OptionKind where
  | value
  | values
  | switch
  deriving DecidableEq, Repr

/-- An option: its names, the long one first, and its kind. -/
structure OptionForm where
  names : List String
  kind : OptionKind
  deriving DecidableEq, Repr

/-- Arguments in their order: options with their values, and arguments that stand for themselves. -/
structure Gathered where
  options : List (String × String) := []
  positionals : List String := []
  deriving DecidableEq, Repr

namespace Gathered

/-- The values of an option. -/
def values (g : Gathered) (name : String) : List String :=
  (g.options.filter fun o => o.1 == name).map Prod.snd

/-- The value of an option that stands at most once. -/
def value? (g : Gathered) (name : String) : Option String := (g.values name).head?

/-- The option is there. -/
def has (g : Gathered) (name : String) : Bool := !(g.values name).isEmpty

/-- The value of an option as a 64-bit number; none if it is not a number. -/
def word? (g : Gathered) (name : String) : Option (Option UInt64) :=
  match g.value? name with
  | none => some none
  | some text =>
      match Numeral.readBelow UInt64.size text with
      | .ok n => some (some (UInt64.ofNat n))
      | .error _ => none

end Gathered

/-- The option with a name. -/
def formOf? (forms : List OptionForm) (name : String) : Option OptionForm :=
  forms.find? fun f => f.names.contains name

/-- The name under which an option is gathered. -/
def OptionForm.name (f : OptionForm) : String := f.names.headD ""

/-- Gathers arguments until `stop` accepts one that stands for itself; answers that one and what
follows it, if there is one.  `ended` tells whether `--` was there. -/
def gather (forms : List OptionForm) (stop : String → Bool) :
    Bool → Gathered → List String → Option (Gathered × Option (String × List String))
  | _, g, [] => some (g, none)
  | ended, g, a :: rest =>
      if !ended && a == "--" then gather forms stop true g rest
      else if !ended && a.toList.head? == some '-' then
        match formOf? forms a with
        | none => none
        | some form =>
            match form.kind, rest with
            | .switch, rest =>
                gather forms stop ended { g with options := g.options ++ [(form.name, "")] } rest
            | _, [] => none
            | .value, v :: rest =>
                if g.has form.name then none
                else gather forms stop ended { g with options := g.options ++ [(form.name, v)] } rest
            | .values, v :: rest =>
                gather forms stop ended { g with options := g.options ++ [(form.name, v)] } rest
      else if stop a then some (g, some (a, rest))
      else gather forms stop ended { g with positionals := g.positionals ++ [a] } rest

/-- Gathers all arguments of a command. -/
def gatherAll (forms : List OptionForm) (args : List String) : Option Gathered :=
  (gather forms (fun _ => false) false {} args).map Prod.fst

/-! ## The options of each command -/

/-- An option of one value with a short name. -/
def short (name letter : String) : OptionForm := ⟨[name, letter], .value⟩

/-- An option of one value without a short name. -/
def long (name : String) : OptionForm := ⟨[name], .value⟩

/-- The options for all commands. -/
def commonForms : List OptionForm :=
  [short "--config" "-c", short "--network" "-n", short "--bitcoin-network" "-b",
    ⟨["--json-logs"], .switch⟩]

/-- The options that name a secret key. -/
def keyForms : List OptionForm :=
  [short "--key-file" "-f", ⟨["--key-from-env", "-E"], .switch⟩]

/-- The options for signing. -/
def signForms : List OptionForm :=
  keyForms ++
    [short "--function" "-F", ⟨["--type-arg", "-t"], .values⟩, ⟨["--arg", "-a"], .values⟩,
      long "--sequence-number", long "--max-gas-amount", ⟨["--bitcoin"], .switch⟩,
      long "--message-info", long "--sign-with"]

/-- The key source that options name. -/
def Gathered.keySource (g : Gathered) : KeySource :=
  ⟨g.value? "--key-file", g.has "--key-from-env"⟩

namespace Request

/-- The names of all commands. -/
def names : List String := ["generate", "inspect-key", "address", "sign", "verify"]

/-- The request for signing that options make up. -/
def ofSignOptions? (g : Gathered) : Option Request := do
  let function ← g.value? "--function"
  let sequenceNumber ← g.word? "--sequence-number"
  let maxGas ← g.word? "--max-gas-amount"
  if g.positionals.isEmpty then
    return .sign
      { key := g.keySource
        function
        typeArgs := g.values "--type-arg"
        args := g.values "--arg"
        sequenceNumber
        maxGas
        bitcoin := g.has "--bitcoin"
        info := g.value? "--message-info"
        signMode := g.value? "--sign-with" }
  else none

/-- The command with a name and arguments. -/
def parse? (name : String) (args : List String) : Option Request :=
  match name with
  | "generate" => do
      let g ← gatherAll [short "--scheme" "-s"] args
      if g.positionals.isEmpty then return .generate (g.value? "--scheme") else none
  | "inspect-key" => do
      let g ← gatherAll keyForms args
      if g.positionals.isEmpty then return .inspectKey g.keySource else none
  | "address" => do
      let g ← gatherAll [] args
      match g.positionals with
      | [text] => return .address text
      | _ => none
  | "sign" => (gatherAll signForms args).bind ofSignOptions?
  | "verify" => do
      let g ← gatherAll [long "--sign-with"] args
      match g.positionals with
      | [transaction] => return .verify transaction (g.value? "--sign-with")
      | _ => none
  | _ => none

end Request

/-- The invocation that arguments make up, if they do. -/
def Invocation.parse? (args : List String) : Option Invocation := do
  let (g, found) ← gather commonForms (Request.names.contains ·) false {} args
  match found with
  | none => none
  | some (name, rest) =>
      if g.positionals.isEmpty then
        let request ← Request.parse? name rest
        return ⟨g.value? "--config", g.value? "--network", g.value? "--bitcoin-network",
          g.has "--json-logs", request⟩
      else none

/-- The files that an invocation names. -/
def Invocation.paths (i : Invocation) : List String :=
  let key := match i.request with
    | .inspectKey source => source.file
    | .sign request => request.key.file
    | _ => none
  i.config.toList ++ key.toList

/-- How the program is called. -/
def usage : String :=
  "[-c <config>] [-n <network>] [-b <bitcoin-network>] [--json-logs] " ++
    "(generate | inspect-key | address | sign | verify) [<args>]"

end MoveWallet.Command
