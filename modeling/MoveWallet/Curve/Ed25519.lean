/-
# MoveWallet.Curve.Ed25519 — signatures on the twisted Edwards curve

The curve is -x² + y² = 1 + d x² y² over the integers modulo 2^255 - 19.  Points are quadruples
`(X, Y, Z, T)` with `x = X / Z`, `y = Y / Z` and `x y = T / Z`; one law of addition serves all pairs.

A key is 32 bytes: `y`, and the parity of `x` in the highest bit.  Reading takes `y` modulo the
prime and ignores the parity where `x` is zero.  Verifying compares the bytes of the point it
recomputes with those in the signature, so only the least form of that point is accepted.
-/
import MoveWallet.Bytes.Endian
import MoveWallet.Bytes.Fixed
import MoveWallet.Curve.Modular
import MoveWallet.Digest.Sha2

namespace MoveWallet.Curve.Ed25519

set_option autoImplicit false

open MoveWallet.Bytes.Endian
open MoveWallet.Bytes.Fixed
open MoveWallet.Curve.Modular
open MoveWallet.Digest.Sha2

/-! ## Parameters -/

/-- The size of the field. -/
def fieldSize : Nat := (1 <<< 255) - 19

/-- The order of the base point. -/
def order : Nat := (1 <<< 252) + 27742317777372353535851937790883648493

/-- The constant `d` of the curve, -121665 / 121666. -/
def coefficient : Nat := 37095705934669439343138083508754565189542113879843219016388785533085940283555

/-- A square root of -1. -/
def rootOfMinusOne : Nat :=
  19681161376707505956807079304988542015446066515923890162744021073123829784752

/-! ## Points -/

/-- A point in extended coordinates. -/
structure Point where
  x : Nat
  y : Nat
  z : Nat
  t : Nat

/-- The neutral point. -/
def Point.neutral : Point := ⟨0, 1, 1, 0⟩

/-- The point with affine coordinates. -/
def Point.ofAffine (x y : Nat) : Point := ⟨x, y, 1, mul fieldSize x y⟩

/-- The base point. -/
def base : Point :=
  Point.ofAffine 15112221349535400772501151409588531511454012693041857206046113283949847762202
    46316835694926478169428394003475163141307993866256225615783033603165251855960

/-- The sum of two points. -/
def Point.add (a b : Point) : Point :=
  let p := fieldSize
  let aa := sub p a.y a.x * sub p b.y b.x % p
  let bb := (a.y + a.x) * (b.y + b.x) % p
  let cc := 2 * a.t * b.t % p * coefficient % p
  let dd := 2 * a.z * b.z % p
  let e := sub p bb aa
  let f := sub p dd cc
  let g := dd + cc
  let h := bb + aa
  ⟨e * f % p, g * h % p, f * g % p, e * h % p⟩

/-- The point with `x` negated. -/
def Point.negate (a : Point) : Point := ⟨neg fieldSize a.x, a.y, a.z, neg fieldSize a.t⟩

/-- A multiple of a point by a number below 2^256. -/
def Point.multiple (k : Nat) (a : Point) : Point :=
  (bits 256 k).foldl (fun acc bit => if bit then (acc.add acc).add a else acc.add acc)
    Point.neutral

/-- The weight of the highest of 256 bits, which tells the parity of `x`. -/
def parityBit : Nat := 1 <<< 255

/-- The 32 bytes of a point. -/
def Point.compress (a : Point) : FixedBytes 32 :=
  let i := inverse fieldSize a.z
  let x := mul fieldSize a.x i
  let y := mul fieldSize a.y i
  FixedBytes.littleEndian 32 (y + x % 2 * parityBit)

/-- A number whose square times `v` is `u`. -/
def quotientRoot? (u v : Nat) : Option Nat :=
  let p := fieldSize
  let v3 := v * v % p * v % p
  let v7 := v3 * v3 % p * v % p
  let r := u * v3 % p * pow p (u * v7 % p) ((p - 5) / 8) % p
  let check := v * (r * r % p) % p
  if check = u % p then some r
  else if check = neg p u then some (mul p r rootOfMinusOne)
  else none

/-- The point in 32 bytes. -/
def Point.decompress? (bs : FixedBytes 32) : Option Point :=
  let p := fieldSize
  let n := ofLittleEndian bs.toList
  let y := n % parityBit % p
  let y2 := square p y
  match quotientRoot? (sub p y2 1) ((coefficient * y2 + 1) % p) with
  | none => none
  | some r =>
      let x := if n / parityBit = r % 2 then r else neg p r
      some (Point.ofAffine x y)

/-! ## Keys and signatures -/

/-- The secret number of a seed and the key that nonces are hashed with. -/
def expandSeed (seed : FixedBytes 32) : Nat × List UInt8 :=
  let h := sha512 seed.toList
  let n := ofLittleEndian (h.take 32)
  let top := 1 <<< 254
  (n % top / 8 * 8 + top, h.drop 32)

/-- The public key of a seed. -/
def publicKey (seed : FixedBytes 32) : FixedBytes 32 :=
  (base.multiple (expandSeed seed).1).compress

/-- A hash of bytes as a number below the order. -/
def hashToScalar (bs : List UInt8) : Nat := ofLittleEndian (sha512 bs) % order

/-- The signature of a message: the nonce's point and a number. -/
def sign (seed : FixedBytes 32) (message : List UInt8) : FixedBytes 64 :=
  let (secret, nonceKey) := expandSeed seed
  let r := hashToScalar (nonceKey ++ message)
  let point := (base.multiple r).compress
  let k := hashToScalar (point.toList ++ (publicKey seed).toList ++ message)
  ⟨point.toList ++ littleEndian 32 ((r + k * secret) % order), by simp [point.length_toList]⟩

/-- The signature of a message belongs to the point `a`, whose bytes are `key`. -/
def Point.accepts (a : Point) (key : FixedBytes 32) (message : List UInt8)
    (signature : FixedBytes 64) : Bool :=
  let r := signature.toList.take 32
  let s := ofLittleEndian (signature.toList.drop 32)
  let k := hashToScalar (r ++ key.toList ++ message)
  s < order && ((base.multiple s).add (a.negate.multiple k)).compress.toList == r

/-- The owner of a key signed the message; a key that is no point verifies nothing. -/
def verify (key : FixedBytes 32) (message : List UInt8) (signature : FixedBytes 64) : Bool :=
  (Point.decompress? key).any fun a => a.accepts key message signature

end MoveWallet.Curve.Ed25519
