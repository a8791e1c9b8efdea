/-
# MoveWallet.Move.FunctionId — modules and functions by name

A module is named `address::name` and a function `address::module::name`.  Text is read with blanks
round it or not.
-/
import MoveWallet.Move.TypeTag.Basic

namespace MoveWallet.Move

set_option autoImplicit false

open MoveWallet.Account
open MoveWallet.Text.Blank
open MoveWallet.Text.Separator
open MoveWallet.Wire

/-! ## Modules -/

/-- A published module. -/
structure ModuleId where
  address : Address
  name : Identifier
  deriving DecidableEq

namespace ModuleId

/-- A module as it is displayed. -/
def toText (m : ModuleId) : String := m.address.toHex ++ "::" ++ m.name.text

/-- The module in a text. -/
def parse (text : String) : Except MoveError ModuleId :=
  match splitFirst? "::".toList (trim text.toList) with
  | none => .error (.badModuleId text)
  | some (a, n) => do
      let address ← parseAddress (String.ofList a)
      let name ← Identifier.parse (String.ofList n)
      return ⟨address, name⟩

/-- Address and name. -/
def codec : Codec ModuleId :=
  (Address.codec.pair Identifier.codec).map (fun p => ⟨p.1, p.2⟩) fun m => (m.address, m.name)

end ModuleId

/-- The module that a struct type belongs to. -/
def StructTag.moduleId (s : StructTag) : ModuleId := ⟨s.address, s.module⟩

/-! ## Functions -/

/-- A function of a published module. -/
structure FunctionId where
  moduleId : ModuleId
  name : Identifier
  deriving DecidableEq

namespace FunctionId

/-- A function as it is displayed. -/
def toText (f : FunctionId) : String := f.moduleId.toText ++ "::" ++ f.name.text

/-- The function in a text: what follows the last `::` is its name. -/
def parse (text : String) : Except MoveError FunctionId :=
  match splitLast? "::".toList (trim text.toList) with
  | none => .error (.badFunctionId text)
  | some (m, n) =>
      if contains "::".toList m then do
        let moduleId ← ModuleId.parse (String.ofList m)
        let name ← Identifier.parse (String.ofList n)
        return ⟨moduleId, name⟩
      else .error (.badFunctionId text)

/-- Module and name. -/
def codec : Codec FunctionId :=
  (ModuleId.codec.pair Identifier.codec).map (fun p => ⟨p.1, p.2⟩) fun f => (f.moduleId, f.name)

end FunctionId

end MoveWallet.Move
