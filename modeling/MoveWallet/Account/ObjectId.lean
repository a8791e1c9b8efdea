/-
# MoveWallet.Account.ObjectId — objects named by a path of addresses

An object id is a path of at least one address.  The first is the root; a child appends the SHA3-256
digest of its parent's path and a key, so the path holds the ids of all ancestors.
-/
import MoveWallet.Account.Digest32

namespace MoveWallet.Account

set_option autoImplicit false

open MoveWallet.Bytes.Endian
open MoveWallet.Bytes.Fixed
open MoveWallet.Text

/-- A path of addresses, which is not empty. -/
structure ObjectId where
  path : List Address
  path_ne_nil : path ≠ []
  deriving DecidableEq

namespace ObjectId

/-- The id with a given path. -/
def ofPath? (path : List Address) : Option ObjectId :=
  if h : path ≠ [] then some ⟨path, h⟩ else none

/-- The id with a given path; the empty path is refused. -/
def ofPath (path : List Address) : Except AddressError ObjectId :=
  match ofPath? path with
  | some id => .ok id
  | none => .error .emptyObjectId

/-- The id of a root object. -/
def ofAddress (a : Address) : ObjectId := ⟨[a], by simp⟩

/-- The root object that a type's name stands for. -/
def named (typeName : String) : ObjectId := ofAddress (Address.ofSha3 (Utf8.bytes typeName))

/-! ## Navigation -/

/-- The first address as an id. -/
def root (id : ObjectId) : ObjectId := ofAddress (id.path.head id.path_ne_nil)

/-- The path has one address. -/
def isRoot (id : ObjectId) : Bool := id.path.length == 1

/-- The id without its last address; a root has no parent. -/
def parent? (id : ObjectId) : Option ObjectId := ofPath? id.path.dropLast

/-- The bytes of all addresses of the path. -/
def toBytes (id : ObjectId) : List UInt8 := id.path.flatMap fun a => a.bytes.toList

/-- The child with a given key. -/
def child (id : ObjectId) (key : List UInt8) : ObjectId :=
  ⟨id.path ++ [Address.ofSha3 (id.toBytes ++ key)], by simp⟩

/-! ## Bytes and text -/

/-- The id whose addresses are the given bytes, 32 at a time. -/
def ofBytes (bs : List UInt8) : Except AddressError ObjectId :=
  if bs.isEmpty || bs.length % 32 ≠ 0 then
    .error (.wrongLength (32 * max 1 ((bs.length + 31) / 32)) bs.length)
  else do
    let path ← (chunks 32 bs).mapM Address.ofBytes
    ofPath path

/-- The digits of all addresses after `0x`. -/
def toText (id : ObjectId) : String := "0x" ++ Hex.encode id.toBytes

/-- The form that messages for developers use. -/
def debugText (id : ObjectId) : String := "ObjectId(" ++ id.toText ++ ")"

/-- Reads an id. -/
def parse (text : String) : Except AddressError ObjectId := do
  let bs ← hexBytes text
  ofBytes bs

/-- The addresses after their number; none is refused. -/
def codec : Wire.Codec ObjectId :=
  (Wire.Codec.vec Address.codec).refine (.malformedField "empty object id") ofPath? ObjectId.path

end ObjectId

end MoveWallet.Account
