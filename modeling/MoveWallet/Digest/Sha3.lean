/-
# MoveWallet.Digest.Sha3 — SHA3-256

The sponge over the permutation of twenty-five 64-bit lanes.  A state is the list of its lanes,
lane `(x, y)` at index `x + 5 * y`; each step of the permutation is a function on such lists.
-/
import MoveWallet.Bytes.Endian

namespace MoveWallet.Digest.Sha3

set_option autoImplicit false

open MoveWallet.Bytes.Endian

/-! ## The permutation -/

/-- The lane at `(x, y)`, both taken modulo five. -/
def lane (s : List UInt64) (x y : Nat) : UInt64 := s.getD (x % 5 + 5 * (y % 5)) 0

/-- A state from its lane at every `(x, y)`. -/
def ofLanes (f : Nat → Nat → UInt64) : List UInt64 :=
  (List.range 25).map fun i => f (i % 5) (i / 5)

/-- A lane turned left by fewer than 64 bits. -/
def turnLeft (w : UInt64) (n : Nat) : UInt64 :=
  if n = 0 then w else (w <<< UInt64.ofNat n) ||| (w >>> UInt64.ofNat (64 - n))

/-- How far each lane turns, by its index. -/
def offsets : List Nat := [
  0, 1, 62, 28, 27,
  36, 44, 6, 55, 20,
  3, 10, 43, 25, 39,
  41, 45, 15, 21, 8,
  18, 2, 61, 56, 14]

/-- The constant that each round adds to the lane at the origin. -/
def roundConstants : List UInt64 := [
  0x0000000000000001, 0x0000000000008082, 0x800000000000808a, 0x8000000080008000,
  0x000000000000808b, 0x0000000080000001, 0x8000000080008081, 0x8000000000008009,
  0x000000000000008a, 0x0000000000000088, 0x0000000080008009, 0x000000008000000a,
  0x000000008000808b, 0x800000000000008b, 0x8000000000008089, 0x8000000000008003,
  0x8000000000008002, 0x8000000000000080, 0x000000000000800a, 0x800000008000000a,
  0x8000000080008081, 0x8000000000008080, 0x0000000080000001, 0x8000000080008008]

/-- Adds to every lane the parity of two columns near it. -/
def mixColumns (s : List UInt64) : List UInt64 :=
  let parity := (List.range 5).map fun x =>
    lane s x 0 ^^^ lane s x 1 ^^^ lane s x 2 ^^^ lane s x 3 ^^^ lane s x 4
  let effect := (List.range 5).map fun x =>
    parity.getD ((x + 4) % 5) 0 ^^^ turnLeft (parity.getD ((x + 1) % 5) 0) 1
  ofLanes fun x y => lane s x y ^^^ effect.getD x 0

/-- Turns every lane and moves it to its new place. -/
def turnAndMove (s : List UInt64) : List UInt64 :=
  ofLanes fun x y =>
    let source := (x + 3 * y) % 5
    turnLeft (lane s source x) (offsets.getD (source + 5 * x) 0)

/-- Combines every lane with the next two of its row. -/
def mixRows (s : List UInt64) : List UInt64 :=
  ofLanes fun x y => lane s x y ^^^ (~~~ lane s (x + 1) y &&& lane s (x + 2) y)

/-- Adds a round's constant to the lane at the origin. -/
def addConstant (constant : UInt64) : List UInt64 → List UInt64
  | [] => []
  | w :: ws => (w ^^^ constant) :: ws

/-- One round. -/
def round (s : List UInt64) (constant : UInt64) : List UInt64 :=
  addConstant constant (mixRows (turnAndMove (mixColumns s)))

/-- All twenty-four rounds. -/
def permute (s : List UInt64) : List UInt64 := roundConstants.foldl round s

/-! ## The sponge -/

/-- Bytes taken in at a time. -/
def rate : Nat := 136

/-- The message with its domain bits and the two ends of the padding, whole blocks long. -/
def pad (message : List UInt8) : List UInt8 :=
  let zeros := rate - 1 - message.length % rate
  if zeros = 0 then message ++ [0x86]
  else message ++ 0x06 :: List.replicate (zeros - 1) 0 ++ [0x80]

/-- Adds a block to the first lanes and permutes. -/
def absorb (s : List UInt64) (block : List UInt8) : List UInt64 :=
  let words := (chunks 8 block).map fun bs => UInt64.ofNat (ofLittleEndian bs)
  permute (s.zipWith (· ^^^ ·) (words ++ List.replicate 8 0))

/-- The SHA3-256 digest, 32 bytes. -/
def sha3 (message : List UInt8) : List UInt8 :=
  let final := (chunks rate (pad message)).foldl absorb (List.replicate 25 0)
  (List.range 4).flatMap fun i => littleEndian 8 (final.getD i 0).toNat

@[simp] theorem length_sha3 (message : List UInt8) : (sha3 message).length = 32 := by
  simp [sha3, List.range_succ]

end MoveWallet.Digest.Sha3
