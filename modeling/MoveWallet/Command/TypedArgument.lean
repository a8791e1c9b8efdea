/-
# MoveWallet.Command.TypedArgument — arguments of a call as text

An argument is written `type:value`.  What follows the first colon is the value, colons included.
-/
import MoveWallet.Account.Digest32
import MoveWallet.Move.Argument
import MoveWallet.Move.TypeTag.Parser
import MoveWallet.Text.Numeral

namespace MoveWallet.Command

set_option autoImplicit false

open MoveWallet.Account
open MoveWallet.Move
open MoveWallet.Text
open MoveWallet.Text.Hex (HexError)
open MoveWallet.Text.Numeral (NumeralError)
open MoveWallet.Text.Separator
open MoveWallet.Wire

/-- Why a text is no argument. -/
inductive ArgumentError where
  | noType (text : String)
  | unknownType (name : String)
  | number (e : NumeralError)
  | truth
  | address (e : AddressError)
  | move (e : MoveError)
  | hex (e : HexError)
  | codec (e : WireError)
  deriving DecidableEq, Repr

namespace ArgumentError

/-- The wording of a fault. -/
def message : ArgumentError → String
  | noType text => "argument '" ++ text ++ "' is not in <type>:<value> form"
  | unknownType name => "unsupported argument type '" ++ name ++ "'"
  | number e => e.message
  | truth => "provided string was not `true` or `false`"
  | address e => e.message
  | move e => e.message
  | hex e => e.message
  | codec e => e.message

/-- The faults that a fault stems from, the nearest first. -/
def causes : ArgumentError → List String
  | move e => e.causes
  | _ => []

/-- An answer that failed for a reason of another layer. -/
def lift {α ε : Type} (wrap : ε → ArgumentError) : Except ε α → Except ArgumentError α
  | .ok a => .ok a
  | .error e => .error (wrap e)

end ArgumentError

namespace TypedArgument

open ArgumentError (lift)

/-- A decimal number that fits a width. -/
def parseUint (w : Width) (value : String) : Except ArgumentError Argument := do
  let n ← lift .number (Numeral.readBelow w.size value)
  return Argument.uint w (BitVec.ofNat w.bits n)

/-- A truth value. -/
def parseBool (value : String) : Except ArgumentError Argument :=
  match value with
  | "true" => .ok (Argument.bool true)
  | "false" => .ok (Argument.bool false)
  | _ => .error .truth

/-- The argument of a type with a value. -/
def parseAs (type value : String) : Except ArgumentError Argument :=
  match type with
  | "u8" => parseUint .w8 value
  | "u16" => parseUint .w16 value
  | "u32" => parseUint .w32 value
  | "u64" => parseUint .w64 value
  | "u128" => parseUint .w128 value
  | "u256" => parseUint .w256 value
  | "bool" => parseBool value
  | "address" => do
      let a ← lift .address (Address.parse value)
      return Argument.address a
  | "string" => lift .codec (Argument.text value)
  | "object_id" => do
      let id ← lift .address (ObjectId.parse value)
      lift .codec (Argument.objectId id)
  | "object" => do
      let s ← lift .move (StructTag.parse value)
      lift .codec (Argument.object s)
  | "raw" => do
      let bs ← lift .hex (Hex.decode (withoutMarker value))
      return ⟨bs⟩
  | name => .error (.unknownType name)

/-- The argument in a text. -/
def parse (text : String) : Except ArgumentError Argument :=
  match splitFirst? [':'] text.toList with
  | none => .error (.noType text)
  | some (type, value) => parseAs (String.ofList type) (String.ofList value)

end TypedArgument

end MoveWallet.Command
