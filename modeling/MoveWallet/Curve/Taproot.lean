/-
# MoveWallet.Curve.Taproot — the output key of an internal key with no script tree

BIP-341: the internal key `x` is moved by the tagged hash of its bytes, read as a number times the
generator, and the output is the coordinate of the sum.
-/
import MoveWallet.Curve.Secp256k1
import MoveWallet.Digest.Sha2

namespace MoveWallet.Curve.Taproot

set_option autoImplicit false

open MoveWallet.Bytes.Endian
open MoveWallet.Bytes.Fixed
open MoveWallet.Curve.Secp256k1
open MoveWallet.Digest.Sha2

/-- SHA-256 of a message for one purpose, which the tag names. -/
def taggedHash (tag : String) (message : List UInt8) : List UInt8 :=
  let t := sha256 (tag.toList.map fun c => UInt8.ofNat c.toNat)
  sha256 (t ++ t ++ message)

/-- How far an internal key is moved. -/
def tweak (key : XOnlyKey) : Nat := ofBigEndian (taggedHash "TapTweak" key.bytes.toList)

/-- The sum of the internal key's even point and its tweak times the generator. -/
def outputPoint (key : XOnlyKey) : Point := combine (tweak key) 1 key.key.toPoint

/-- The coordinate of the output point, zero for the neutral one.  A key that leads to the neutral
point, or whose tweak is not below the order, is not known to exist. -/
def outputKey (key : XOnlyKey) : FixedBytes 32 :=
  match outputPoint key with
  | .neutral => FixedBytes.zero 32
  | .affine x _ => FixedBytes.bigEndian 32 x

end MoveWallet.Curve.Taproot
