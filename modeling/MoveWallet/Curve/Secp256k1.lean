/-
# MoveWallet.Curve.Secp256k1 — the curve y² = x³ + 7 and its keys

`Point` is a point of the group in affine form; sums and multiples go through projective triples
`(X, Y, Z)` with `x = X / Z²` and `y = Y / Z³`, which need one inverse at the end.  `CurveKey` is a
point that was checked to lie on the curve: reading a key is the only way to one.
-/
import MoveWallet.Bytes.Endian
import MoveWallet.Bytes.Fixed
import MoveWallet.Curve.Modular

namespace MoveWallet.Curve.Secp256k1

set_option autoImplicit false

open MoveWallet.Bytes.Endian
open MoveWallet.Bytes.Fixed
open MoveWallet.Curve.Modular

/-! ## Parameters -/

/-- The size of the field. -/
def fieldSize : Nat := 0xFFFFFFFFFFFFFFFFFFFFFFFFFFFFFFFFFFFFFFFFFFFFFFFFFFFFFFFEFFFFFC2F

/-- The number of points. -/
def order : Nat := 0xFFFFFFFFFFFFFFFFFFFFFFFFFFFFFFFEBAAEDCE6AF48A03BBFD25E8CD0364141

/-! ## Points -/

/-- A point: the neutral one, or one with coordinates. -/
inductive Point where
  | neutral
  | affine (x y : Nat)
  deriving DecidableEq, Repr

/-- The generator. -/
def generator : Point :=
  .affine 0x79BE667EF9DCBBAC55A06295CE870B07029BFCDB2DCE28D959F2815B16F81798
    0x483ADA7726A3C4655DA4FBFC0E1108A8FD17B448A68554199C47D08FFB10D4B8

/-- The equation of the curve. -/
def onCurve (x y : Nat) : Bool := square fieldSize y == (x * x * x + 7) % fieldSize

/-- A projective triple; the neutral point has `z = 0`. -/
structure Triple where
  x : Nat
  y : Nat
  z : Nat

/-- The triple of the neutral point. -/
def Triple.neutral : Triple := ⟨1, 1, 0⟩

/-- The triple of a point. -/
def Triple.ofPoint : Point → Triple
  | .neutral => Triple.neutral
  | .affine x y => ⟨x, y, 1⟩

/-- The point of a triple. -/
def Triple.toPoint (t : Triple) : Point :=
  if t.z = 0 then .neutral
  else
    let i := inverse fieldSize t.z
    let i2 := square fieldSize i
    .affine (mul fieldSize t.x i2) (mul fieldSize t.y (mul fieldSize i2 i))

/-- Twice a point. -/
def Triple.double (t : Triple) : Triple :=
  if t.z = 0 then t
  else
    let p := fieldSize
    let y2 := square p t.y
    let s := 4 * t.x * y2 % p
    let m := 3 * t.x * t.x % p
    let x := sub p (square p m) (2 * s)
    let y := sub p (mul p m (sub p s x)) (8 * square p y2)
    ⟨x, y, 2 * t.y * t.z % p⟩

/-- The sum of two points. -/
def Triple.add (a b : Triple) : Triple :=
  if a.z = 0 then b
  else if b.z = 0 then a
  else
    let p := fieldSize
    let az2 := square p a.z
    let bz2 := square p b.z
    let u1 := mul p a.x bz2
    let u2 := mul p b.x az2
    let s1 := a.y * bz2 % p * b.z % p
    let s2 := b.y * az2 % p * a.z % p
    if u1 = u2 then
      if s1 = s2 then a.double else Triple.neutral
    else
      let h := sub p u2 u1
      let r := sub p s2 s1
      let h2 := square p h
      let h3 := mul p h h2
      let v := mul p u1 h2
      let x := sub p (sub p (square p r) h3) (2 * v)
      let y := sub p (mul p r (sub p v x)) (mul p s1 h3)
      ⟨x, y, a.z * b.z % p * h % p⟩

/-- A multiple of a triple by a number below 2^256. -/
def Triple.multiple (k : Nat) (t : Triple) : Triple :=
  (bits 256 k).foldl (fun acc bit => if bit then acc.double.add t else acc.double) Triple.neutral

/-- The multiple `k` of the generator. -/
def multiple (k : Nat) : Point := ((Triple.ofPoint generator).multiple k).toPoint

/-- The multiple `j` of the generator plus the multiple `k` of `q`. -/
def combine (j k : Nat) (q : Point) : Point :=
  (((Triple.ofPoint generator).multiple j).add ((Triple.ofPoint q).multiple k)).toPoint

/-! ## Lifting a coordinate -/

/-- A root of `x³ + 7`, if that is a square. -/
def root (x : Nat) : Nat := pow fieldSize ((x * x * x + 7) % fieldSize) ((fieldSize + 1) / 4)

/-- The odd or the even `y` that goes with `x`, if there is one. -/
def lift? (x : Nat) (odd : Bool) : Option Nat :=
  if x < fieldSize then
    let r := root x
    let y := if (r % 2 == 1) == odd then r else neg fieldSize r
    if onCurve x y && ((y % 2 == 1) == odd) then some y else none
  else none

theorem root_lt (x : Nat) : root x < fieldSize := by
  have step : ∀ (bs : List Bool) (acc m b : Nat), 0 < m → acc < m →
      bs.foldl (fun acc bit => if bit then acc * acc % m * b % m else acc * acc % m) acc < m := by
    intro bs
    induction bs with
    | nil => intro acc m b _ h; exact h
    | cons bit bs ih =>
      intro acc m b hm _
      exact ih _ m b hm (by cases bit <;> exact Nat.mod_lt _ hm)
  exact step _ _ _ _ (by decide) (Nat.mod_lt _ (by decide))

theorem mod_square_neg {p y : Nat} (h : y < p) (h0 : 0 < y) :
    square p (neg p y) = square p y := by
  have hn : neg p y = p - y := by
    rw [neg, Nat.mod_eq_of_lt h, Nat.mod_eq_of_lt (by omega)]
  rw [hn, square, square]
  have hz : (p - y) * (p - y) + p * y = y * y + p * (p - y) := by
    have hp : p = (p - y) + y := by omega
    generalize p - y = z at hp
    subst hp
    rw [Nat.add_mul, Nat.add_mul, Nat.mul_comm z y]
    omega
  rw [← Nat.add_mul_mod_self_left ((p - y) * (p - y)) p y, hz, Nat.add_mul_mod_self_left]

theorem onCurve_neg {x r : Nat} (h : r < fieldSize) (h0 : 0 < r) :
    onCurve x (neg fieldSize r) = onCurve x r := by
  unfold onCurve
  rw [mod_square_neg h h0]

theorem neg_of_pos {r : Nat} (h : r < fieldSize) (h0 : 0 < r) :
    neg fieldSize r = fieldSize - r := by
  rw [neg, Nat.mod_eq_of_lt h, Nat.mod_eq_of_lt (by omega)]

/-- A coordinate that has an odd `y` has the negated one as its even `y`. -/
theorem lift?_even {x y : Nat} (h : lift? x true = some y) :
    lift? x false = some (fieldSize - y) := by
  have hr := root_lt x
  have hp : fieldSize % 2 = 1 := by decide
  simp only [lift?] at h ⊢
  generalize root x = r at h hr ⊢
  by_cases hx : x < fieldSize
  · simp only [hx, if_true] at h ⊢
    by_cases hodd : r % 2 = 1
    · have hneg := neg_of_pos hr (by omega)
      have hon : onCurve x (fieldSize - r) = onCurve x r := by
        rw [← hneg, onCurve_neg hr (by omega)]
      have heven : (fieldSize - r) % 2 = 0 := by omega
      simp [hodd] at h
      obtain ⟨hc, rfl⟩ := h
      have hne : ¬ r % 2 = 0 := by omega
      simp [hne, hneg, hon, heven, hc]
    · have hev : r % 2 = 0 := by omega
      simp [hev] at h
      have h0 : 0 < r := by
        rcases Nat.eq_zero_or_pos r with e | e
        · subst e
          have : neg fieldSize 0 % 2 = 0 := by decide
          omega
        · exact e
      have hneg := neg_of_pos hr h0
      have hon := h.1.1
      rw [onCurve_neg hr h0] at hon
      have hy : fieldSize - y = r := by omega
      simp [hev, hon, hy]
  · simp [hx] at h

/-! ## Keys -/

/-- A point of the curve with coordinates in range: the lift of `x` to a `y` of known parity. -/
structure CurveKey where
  x : Nat
  odd : Bool
  y : Nat
  lifted : lift? x odd = some y
  deriving DecidableEq

/-- The key with coordinate `x` and a `y` of the parity asked for. -/
def CurveKey.ofCoordinate? (x : Nat) (odd : Bool) : Option CurveKey :=
  match h : lift? x odd with
  | some y => some ⟨x, odd, y, h⟩
  | none => none

/-- The point of a key. -/
def CurveKey.toPoint (k : CurveKey) : Point := .affine k.x k.y

/-- The key at a point of the curve. -/
def CurveKey.ofPoint? : Point → Option CurveKey
  | .neutral => none
  | .affine x y =>
      match CurveKey.ofCoordinate? x (y % 2 == 1) with
      | some k => if k.y = y then some k else none
      | none => none

/-- The key in 33 bytes: 2 or 3 for the parity of `y`, and `x`. -/
def CurveKey.ofCompressed? : List UInt8 → Option CurveKey
  | parity :: xs =>
      if xs.length = 32 && (parity == 2 || parity == 3) then
        CurveKey.ofCoordinate? (ofBigEndian xs) (parity == 3)
      else none
  | [] => none

/-- The 33 bytes of a key. -/
def CurveKey.compressed (k : CurveKey) : FixedBytes 33 :=
  ⟨(if k.odd then 3 else 2) :: bigEndian 32 k.x, by simp⟩

/-- The generator as a key. -/
def generatorKey : CurveKey where
  x := 0x79BE667EF9DCBBAC55A06295CE870B07029BFCDB2DCE28D959F2815B16F81798
  odd := false
  y := 0x483ADA7726A3C4655DA4FBFC0E1108A8FD17B448A68554199C47D08FFB10D4B8
  lifted := by decide +kernel

/-- The key of a secret number.  A multiple of the order has none, and the generator stands in. -/
def CurveKey.ofSecret (secret : Nat) : CurveKey :=
  (CurveKey.ofPoint? (multiple secret)).getD generatorKey

/-! ## Keys without parity -/

/-- A key of which only `x` is written: the point with the even `y`. -/
structure XOnlyKey where
  key : CurveKey
  even : key.odd = false
  deriving DecidableEq

/-- The key without its parity. -/
def CurveKey.xOnly (k : CurveKey) : XOnlyKey :=
  match h : k.odd with
  | false => ⟨k, h⟩
  | true => ⟨⟨k.x, false, fieldSize - k.y, lift?_even (h ▸ k.lifted)⟩, rfl⟩

/-- The key with coordinate `x`. -/
def XOnlyKey.ofCoordinate? (x : Nat) : Option XOnlyKey :=
  (CurveKey.ofCoordinate? x false).map CurveKey.xOnly

/-- The key in 32 bytes. -/
def XOnlyKey.ofBytes? (bs : List UInt8) : Option XOnlyKey :=
  if bs.length = 32 then XOnlyKey.ofCoordinate? (ofBigEndian bs) else none

/-- The 32 bytes of a key. -/
def XOnlyKey.bytes (k : XOnlyKey) : FixedBytes 32 := FixedBytes.bigEndian 32 k.key.x

/-- Why bytes are no key. -/
inductive KeyError where
  | malformedPublicKey
  | secretOutOfRange
  deriving DecidableEq, Repr

/-- The wording of a fault. -/
def KeyError.message : KeyError → String
  | .malformedPublicKey => "malformed public key"
  | .secretOutOfRange => "malformed or out-of-range secret key"

end MoveWallet.Curve.Secp256k1
