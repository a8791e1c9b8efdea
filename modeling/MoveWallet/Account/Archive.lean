/-
# MoveWallet.Account.Archive — addresses and object ids at the front of an archive

In archives an address or a digest is its 32 bytes, and the number of addresses of an object id has
eight bytes.  A value is read from the front of what is given; what follows it does not matter.
-/
import MoveWallet.Account.ObjectId

namespace MoveWallet.Account.Archive

set_option autoImplicit false

open MoveWallet.Wire

/-- Reads a value from the front of bytes. -/
def readFront? {α : Type} (c : Codec α) (bs : List UInt8) : Option α :=
  match (c.decode (Cursor.start bs)).1 with
  | .ok a => some a
  | .error _ => none

/-- Values after their number in eight bytes. -/
def countedVec {α : Type} (c : Codec α) : Codec (List α) where
  encode as := Codec.word.encode (UInt64.ofNat as.length) ++ Codec.encodeMany c.encode as
  decode := do
    let n ← Codec.word.decode
    c.decode.readMany n.toNat

/-- The archived form of an address. -/
def address : Codec Address := Address.codec

/-- The archived form of a digest. -/
def digest : Codec Digest32 := Digest32.codec

/-- The archived form of an object id. -/
def objectId : Codec ObjectId :=
  (countedVec Address.codec).refine (.malformedField "empty object id") ObjectId.ofPath?
    ObjectId.path

end MoveWallet.Account.Archive
