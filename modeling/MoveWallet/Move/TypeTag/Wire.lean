/-
# MoveWallet.Move.TypeTag.Wire — the written form of types

A type is the index of its kind, followed by the element of a vector or the fields of a struct.
Writing has no bound on depth.  Reading stops at types that stand too deep: `decodeTypeTag levels`
reads a type that may reach `levels` levels, its own among them, and refuses all when none is left.
-/
import MoveWallet.Move.TypeTag.Basic

namespace MoveWallet.Move

set_option autoImplicit false

open MoveWallet.Account
open MoveWallet.Wire

/-- The fault of a type that stands too deep. -/
def tooDeep : WireError := .malformedField "type tag nesting too deep"

/-! ## Writing -/

/-- The fields of a struct before its parameters. -/
def encodePath (a : Address) (m n : Identifier) : Encoding :=
  Address.codec.encode a ++ Identifier.codec.encode m ++ Identifier.codec.encode n

mutual

/-- The bytes of a type. -/
def TypeTag.encode : TypeTag → Encoding
  | .primitive p => encodeVariant (UInt32.ofNat p.rank)
  | .vector t => encodeVariant 6 ++ t.encode
  | .struct a m n ps =>
      encodeVariant 7 ++ (encodePath a m n ++ (encodeLength ps.length ++ encodeParams ps))

/-- The bytes of parameters one after another. -/
def encodeParams : List TypeTag → Encoding
  | [] => .ok []
  | t :: ts => t.encode ++ encodeParams ts

end

/-- The bytes of a struct type. -/
def StructTag.encode (s : StructTag) : Encoding :=
  encodePath s.address s.module s.name ++ (encodeLength s.params.length ++ encodeParams s.params)

/-! ## Reading -/

/-- Reads the fields of a struct whose parameters are read by `param`. -/
def decodeStructWith (param : Decoder TypeTag) : Decoder StructTag := do
  let a ← Address.codec.decode
  let m ← Identifier.codec.decode
  let n ← Identifier.codec.decode
  let count ← decodeLength
  let ps ← param.readMany count
  return ⟨a, m, n, ps⟩

mutual

/-- Reads a type that may reach `levels` levels. -/
def decodeTypeTag : Nat → Decoder TypeTag
  | 0 => Decoder.fail tooDeep
  | levels + 1 => do
      let index ← decodeVariant
      if index = 6 then
        let t ← decodeTypeTag levels
        return .vector t
      else if index = 7 then
        let s ← decodeStructTag levels
        return s.toTypeTag
      else match Primitive.ofRank? index with
        | some p => return .primitive p
        | none => Decoder.fail (.unknownVariant "TypeTag" index)

/-- Reads a struct that may reach `levels` levels; its parameters stand one level below it. -/
def decodeStructTag : Nat → Decoder StructTag
  | 0 => decodeStructWith (Decoder.fail tooDeep)
  | levels + 1 => decodeStructWith (decodeTypeTag levels)

end

/-- Types up to the deepest level. -/
def TypeTag.codec : Codec TypeTag where
  encode := TypeTag.encode
  decode := decodeTypeTag (maxDepth + 1)

/-- Struct types whose parameters stand at the levels from one to the deepest. -/
def StructTag.codec : Codec StructTag where
  encode := StructTag.encode
  decode := decodeStructTag (maxDepth + 1)

end MoveWallet.Move
