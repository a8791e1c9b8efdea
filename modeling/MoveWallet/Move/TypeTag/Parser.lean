/-
# MoveWallet.Move.TypeTag.Parser — types from text

A type is the word of a primitive, `vector<…>`, or a path `address::module::name` with parameters in
angle brackets or without.  Blanks round a type do not count.  Parameters are cut at the commas that
stand outside brackets.  As on the wire, a type that stands too deep is refused.
-/
import MoveWallet.Move.TypeTag.Basic

namespace MoveWallet.Move

set_option autoImplicit false

open MoveWallet.Account
open MoveWallet.Text
open MoveWallet.Text.Blank
open MoveWallet.Text.Separator

/-! ## Parameter lists -/

/-- Puts a character in front of the first part. -/
def consFirst (c : Char) : List (List Char) → List (List Char)
  | [] => [[c]]
  | part :: parts => (c :: part) :: parts

/-- Cuts text at its commas outside brackets, inside `depth` open brackets; none if brackets do not
match. -/
def cutParams? : Nat → List Char → Option (List (List Char))
  | 0, [] => some [[]]
  | _ + 1, [] => none
  | depth, c :: s =>
      if c = '<' then (cutParams? (depth + 1) s).map (consFirst c)
      else if c = '>' then
        match depth with
        | 0 => none
        | outer + 1 => (cutParams? outer s).map (consFirst c)
      else if c = ',' && depth == 0 then (cutParams? 0 s).map ([] :: ·)
      else (cutParams? depth s).map (consFirst c)

/-- The entries of a parameter list; none if brackets do not match or an entry is blank. -/
def splitParams? (s : List Char) : Option (List (List Char)) :=
  match cutParams? 0 s with
  | some parts => if parts.any isBlankText then none else some parts
  | none => none

/-! ## Structs -/

/-- The fault `fault` of a text. -/
def badTypeTag {α : Type} (s : List Char) (fault : TypeTagFault) : Except MoveError α :=
  .error (.badTypeTag (String.ofList s) fault)

/-- Cuts a path into its three parts. -/
def splitPath? (s : List Char) : Option (List Char × List Char × List Char) :=
  match splitFirst? "::".toList s with
  | none => none
  | some (a, r) =>
      match splitFirst? "::".toList r with
      | none => none
      | some (m, n) => if contains "::".toList n then none else some (a, m, n)

/-- The path of a struct, given the text of the struct for its fault. -/
def parsePath (whole path : List Char) (params : List TypeTag) : Except MoveError StructTag :=
  match splitPath? (trim path) with
  | none => badTypeTag whole .badPath
  | some (a, m, n) => do
      let address ← parseAddress (String.ofList a)
      let module ← Identifier.parse (String.ofList m)
      let name ← Identifier.parse (String.ofList n)
      return ⟨address, module, name, params⟩

/-- Reads a struct whose parameters are read by `param`. -/
def parseStructWith (param : List Char → Except MoveError TypeTag) (s : List Char) :
    Except MoveError StructTag :=
  match splitFirst? ['<'] s with
  | none => parsePath s s []
  | some (path, rest) =>
      match dropSuffix? ['>'] rest with
      | none => badTypeTag s .unbalanced
      | some inner =>
          match splitParams? inner with
          | none => badTypeTag s .badParameters
          | some parts => do
              let params ← parts.mapM param
              parsePath s path params

/-! ## Types -/

/-- The inside of `vector<…>`. -/
def vectorElement? (s : List Char) : Option (List Char) :=
  (dropPrefix? "vector<".toList s).bind (dropSuffix? ['>'])

mutual

/-- Reads a type that may reach `levels` levels. -/
def parseTypeTag : Nat → List Char → Except MoveError TypeTag
  | 0, input => badTypeTag input .tooDeep
  | levels + 1, input =>
      let s := trim input
      match Primitive.ofWord? s with
      | some p => .ok (.primitive p)
      | none =>
          match vectorElement? s with
          | some inner => do
              let t ← parseTypeTag levels inner
              return .vector t
          | none =>
              if contains "::".toList s then do
                let tag ← parseStructTag levels s
                return tag.toTypeTag
              else badTypeTag input .unknownType

/-- Reads a struct that may reach `levels` levels; its parameters stand one level below it. -/
def parseStructTag : Nat → List Char → Except MoveError StructTag
  | 0, s => parseStructWith (fun part => badTypeTag part .tooDeep) s
  | levels + 1, s => parseStructWith (parseTypeTag levels) s

end

/-- The type in a text. -/
def TypeTag.parse (text : String) : Except MoveError TypeTag :=
  parseTypeTag (maxDepth + 1) text.toList

/-- The struct type in a text. -/
def StructTag.parse (text : String) : Except MoveError StructTag :=
  parseStructTag (maxDepth + 1) (trim text.toList)

end MoveWallet.Move
