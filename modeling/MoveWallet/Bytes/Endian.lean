/-
# MoveWallet.Bytes.Endian — bytes as numbers, in either order

`bigEndian w n` and `littleEndian w n` are the low `w` bytes of a number; `ofBigEndian` and
`ofLittleEndian` read bytes back.  `chunks` cuts bytes into blocks of one size.
-/

namespace MoveWallet.Bytes.Endian

set_option autoImplicit false

/-! ## Numbers -/

/-- The low `w` bytes of a number, most significant first. -/
def bigEndian : Nat → Nat → List UInt8
  | 0, _ => []
  | w + 1, n => bigEndian w (n / 256) ++ [UInt8.ofNat (n % 256)]

/-- Bytes read as a number, most significant first. -/
def ofBigEndian (bs : List UInt8) : Nat :=
  bs.foldl (fun n b => n * 256 + b.toNat) 0

/-- The low `w` bytes of a number, least significant first. -/
def littleEndian : Nat → Nat → List UInt8
  | 0, _ => []
  | w + 1, n => UInt8.ofNat (n % 256) :: littleEndian w (n / 256)

/-- Bytes read as a number, least significant first. -/
def ofLittleEndian : List UInt8 → Nat
  | [] => 0
  | b :: bs => b.toNat + 256 * ofLittleEndian bs

@[simp] theorem length_bigEndian (w n : Nat) : (bigEndian w n).length = w := by
  induction w generalizing n with
  | zero => rfl
  | succ w ih => simp [bigEndian, ih]

@[simp] theorem length_littleEndian (w n : Nat) : (littleEndian w n).length = w := by
  induction w generalizing n with
  | zero => rfl
  | succ w ih => simp [littleEndian, ih]

/-! ## Blocks -/

/-- `count` blocks of `size` bytes, from the front. -/
def blocks (size : Nat) : Nat → List UInt8 → List (List UInt8)
  | 0, _ => []
  | count + 1, bs => bs.take size :: blocks size count (bs.drop size)

/-- The whole blocks of `size` bytes. -/
def chunks (size : Nat) (bs : List UInt8) : List (List UInt8) :=
  blocks size (bs.length / size) bs

end MoveWallet.Bytes.Endian
