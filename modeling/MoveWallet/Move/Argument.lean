/-
# MoveWallet.Move.Argument — arguments of Move calls

An argument is the written form of its value.  Numbers, truth values and addresses have no length in
front; text, vectors and object ids do.  An object argument is the id of the named object that a
struct type stands for, keyed by the type's canonical text.
-/
import MoveWallet.Account.ObjectId
import MoveWallet.Move.TypeTag.Basic

namespace MoveWallet.Move

set_option autoImplicit false

open MoveWallet.Account
open MoveWallet.Text
open MoveWallet.Wire

/-- One argument. -/
structure Argument where
  bytes : List UInt8
  deriving DecidableEq

namespace Argument

/-- The argument with a value's bytes. -/
def ofValue {α : Type} (codec : Codec α) (value : α) : Except WireError Argument :=
  (codec.encode value).map Argument.mk

/-- A number. -/
def uint (w : Width) (n : BitVec w.bits) : Argument :=
  ⟨Bytes.Endian.littleEndian w.bytes n.toNat⟩

/-- A truth value. -/
def bool (b : Bool) : Argument := ⟨[if b then 1 else 0]⟩

/-- An address. -/
def address (a : Address) : Argument := ⟨a.bytes.toList⟩

/-- A text. -/
def text (s : String) : Except WireError Argument := ofValue Codec.text s

/-- An object id. -/
def objectId (id : ObjectId) : Except WireError Argument := ofValue ObjectId.codec id

/-- The named object of a struct type. -/
def object (s : StructTag) : Except WireError Argument := objectId (ObjectId.named s.canonical)

/-- Values of one type. -/
def vector {α : Type} (codec : Codec α) (values : List α) : Except WireError Argument :=
  ofValue (Codec.vec codec) values

/-- The bytes in hex after `0x`. -/
def toText (a : Argument) : String := "0x" ++ Hex.encode a.bytes

/-- The form that messages for developers use. -/
def debugText (a : Argument) : String := "MoveArg(" ++ a.toText ++ ")"

end Argument

end MoveWallet.Move
