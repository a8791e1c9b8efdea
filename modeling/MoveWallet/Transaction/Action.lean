/-
# MoveWallet.Transaction.Action — what a transaction does

A transaction runs a script, calls a function of a published module, or publishes modules.  The last
can still be written, but is no longer read.
-/
import MoveWallet.Move.Argument
import MoveWallet.Move.FunctionId
import MoveWallet.Move.TypeTag.Wire

namespace MoveWallet.Transaction

set_option autoImplicit false

open MoveWallet.Move
open MoveWallet.Wire

/-- A compiled script with its type arguments and arguments. -/
structure ScriptCall where
  code : List UInt8
  typeArgs : List TypeTag
  args : List (List UInt8)
  deriving DecidableEq

/-- A function with its type arguments and arguments. -/
structure FunctionCall where
  function : FunctionId
  typeArgs : List TypeTag
  args : List (List UInt8)
  deriving DecidableEq

/-- Code, type arguments, arguments. -/
def ScriptCall.codec : Codec ScriptCall :=
  (Codec.bytes.pair ((Codec.vec TypeTag.codec).pair (Codec.vec Codec.bytes))).map
    (fun (c, t, a) => ⟨c, t, a⟩) fun s => (s.code, s.typeArgs, s.args)

/-- Function, type arguments, arguments. -/
def FunctionCall.codec : Codec FunctionCall :=
  (FunctionId.codec.pair ((Codec.vec TypeTag.codec).pair (Codec.vec Codec.bytes))).map
    (fun (f, t, a) => ⟨f, t, a⟩) fun c => (c.function, c.typeArgs, c.args)

/-- What a transaction does. -/
inductive Action where
  | script (call : ScriptCall)
  | function (call : FunctionCall)
  | modules (codes : List (List UInt8))
  deriving DecidableEq

namespace Action

/-- The type arguments of a call. -/
def typeArgs : Action → List TypeTag
  | script call => call.typeArgs
  | function call => call.typeArgs
  | modules _ => []

/-- The bytes of an action: the index of its kind and what it holds. -/
def encode : Action → Encoding
  | script call => encodeVariant 0 ++ ScriptCall.codec.encode call
  | function call => encodeVariant 1 ++ FunctionCall.codec.encode call
  | modules codes => encodeVariant 2 ++ (Codec.vec Codec.bytes).encode codes

/-- Reads an action that is a call. -/
def decode : Decoder Action := do
  let index ← decodeVariant
  if index = 0 then
    let call ← ScriptCall.codec.decode
    return script call
  else if index = 1 then
    let call ← FunctionCall.codec.decode
    return function call
  else if index = 2 then Decoder.fail (.deprecatedVariant "MoveAction::ModuleBundle")
  else Decoder.fail (.unknownVariant "MoveAction" index)

/-- Actions; those that publish modules are written only. -/
def codec : Codec Action := ⟨encode, decode⟩

/-- A script with arguments. -/
def ofScript (code : List UInt8) (typeArgs : List TypeTag) (args : List Argument) : Action :=
  script ⟨code, typeArgs, args.map Argument.bytes⟩

/-- A function with arguments. -/
def ofFunction (f : FunctionId) (typeArgs : List TypeTag) (args : List Argument) : Action :=
  function ⟨f, typeArgs, args.map Argument.bytes⟩

end Action

end MoveWallet.Transaction
