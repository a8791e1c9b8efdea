/-
# MoveWallet.Digest.Blake2b — BLAKE2b with 32 bytes of output and no key

The working state is four rows of four words.  A round mixes the columns, then the diagonals; the
diagonals become columns when the rows are turned by none, one, two and three places.
-/
import MoveWallet.Digest.Sha2

namespace MoveWallet.Digest.Blake2b

set_option autoImplicit false

open MoveWallet.Bytes.Endian
open MoveWallet.Digest.Sha2 (squareRoots turn64)

/-- The starting words, before the parameters are added. -/
def startWords : List UInt64 := squareRoots.toList

/-! ## Mixing -/

/-- One column of the working state. -/
structure Column where
  a : UInt64
  b : UInt64
  c : UInt64
  d : UInt64

/-- Mixes two message words into a column. -/
def Column.mix (v : Column) (x y : UInt64) : Column :=
  let a := v.a + v.b + x
  let d := turn64 (v.d ^^^ a) 32
  let c := v.c + d
  let b := turn64 (v.b ^^^ c) 24
  let a := a + b + y
  let d := turn64 (d ^^^ a) 16
  let c := c + d
  let b := turn64 (b ^^^ c) 63
  ⟨a, b, c, d⟩

/-- Mixes message words into columns, two words for each. -/
def mixColumns : List Column → List UInt64 → List Column
  | v :: vs, x :: y :: words => v.mix x y :: mixColumns vs words
  | _, _ => []

/-- Turns the rows `b`, `c` and `d` left by the given numbers of places. -/
def turnRows (nb nc nd : Nat) (vs : List Column) : List Column :=
  let bs := (vs.map (·.b)).rotateLeft nb
  let cs := (vs.map (·.c)).rotateLeft nc
  let ds := (vs.map (·.d)).rotateLeft nd
  (vs.zip (bs.zip (cs.zip ds))).map fun (v, b, c, d) => ⟨v.a, b, c, d⟩

/-- The order in which each of the ten rounds takes the message words. -/
def orders : List (List Nat) := [
  [0, 1, 2, 3, 4, 5, 6, 7, 8, 9, 10, 11, 12, 13, 14, 15],
  [14, 10, 4, 8, 9, 15, 13, 6, 1, 12, 0, 2, 11, 7, 5, 3],
  [11, 8, 12, 0, 5, 2, 15, 13, 10, 14, 3, 6, 7, 1, 9, 4],
  [7, 9, 3, 1, 13, 12, 11, 14, 2, 6, 5, 10, 4, 0, 15, 8],
  [9, 0, 5, 7, 2, 4, 10, 15, 14, 1, 11, 12, 6, 8, 3, 13],
  [2, 12, 6, 10, 0, 11, 8, 3, 4, 13, 7, 5, 15, 14, 1, 9],
  [12, 5, 1, 15, 14, 13, 4, 10, 0, 7, 6, 3, 9, 2, 8, 11],
  [13, 11, 7, 14, 12, 1, 3, 9, 5, 0, 15, 4, 8, 6, 2, 10],
  [6, 15, 14, 9, 11, 3, 0, 8, 12, 2, 13, 7, 1, 4, 10, 5],
  [10, 2, 8, 4, 7, 6, 1, 5, 15, 11, 9, 14, 3, 12, 13, 0]]

/-- One round: the columns, then the diagonals. -/
def round (message : List UInt64) (vs : List Column) (order : List Nat) : List Column :=
  let words := order.map fun i => message.getD i 0
  let columns := mixColumns vs (words.take 8)
  turnRows 3 2 1 (mixColumns (turnRows 1 2 3 columns) (words.drop 8))

/-! ## Blocks -/

/-- Columns from the sixteen words of four rows. -/
def columns (a b c d : List UInt64) : List Column :=
  (a.zip (b.zip (c.zip d))).map fun (a, b, c, d) => ⟨a, b, c, d⟩

/-- Mixes a block into the chaining words; `count` bytes have been taken in, this block's among
them.  Twelve rounds: the ten orders and the first two again. -/
def compress (chain : List UInt64) (block : List UInt8) (count : Nat) (last : Bool) :
    List UInt64 :=
  let message := (chunks 8 block).map fun bs => UInt64.ofNat (ofLittleEndian bs)
  let counters := [UInt64.ofNat count, UInt64.ofNat (count / UInt64.size), if last then ~~~ 0 else 0, 0]
  let start := columns (chain.take 4) (chain.drop 4) (startWords.take 4)
    ((startWords.drop 4).zipWith (· ^^^ ·) counters)
  let final := (orders ++ orders.take 2).foldl (round message) start
  let low := final.map fun v => v.a ^^^ v.c
  let high := final.map fun v => v.b ^^^ v.d
  chain.zipWith (· ^^^ ·) (low ++ high)

/-- Takes in the rest of a message from byte `count` on, `blocks` blocks before the last. -/
def absorb (chain : List UInt64) (count : Nat) : Nat → List UInt8 → List UInt64
  | 0, rest =>
      compress chain (rest ++ List.replicate (128 - rest.length) 0) (count + rest.length) true
  | blocks + 1, rest =>
      absorb (compress chain (rest.take 128) (count + 128) false) (count + 128) blocks
        (rest.drop 128)

/-- The chaining words before any message: an output of 32 bytes and no key. -/
def start : List UInt64 :=
  match startWords with
  | w :: ws => (w ^^^ 0x01010020) :: ws
  | [] => []

/-- The BLAKE2b digest, 32 bytes. -/
def blake2b (message : List UInt8) : List UInt8 :=
  let final := absorb start 0 ((message.length - 1) / 128) message
  (List.range 4).flatMap fun i => littleEndian 8 (final.getD i 0).toNat

@[simp] theorem length_blake2b (message : List UInt8) : (blake2b message).length = 32 := by
  simp [blake2b, List.range_succ]

end MoveWallet.Digest.Blake2b
