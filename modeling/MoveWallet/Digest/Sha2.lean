/-
# MoveWallet.Digest.Sha2 — SHA-256 and SHA-512

One construction for both word sizes.  `Family` holds what differs: the word's size, its two large
and two small mixing functions and the constants; `digest` pads a message, cuts it into blocks of
sixteen words and folds the blocks into the state.  The constants are the leading bits of the
fractions of square and cube roots of the first primes, so those of the narrower hash are the high
halves of those of the wider one.
-/
import MoveWallet.Bytes.Endian

namespace MoveWallet.Digest.Sha2

set_option autoImplicit false

open MoveWallet.Bytes.Endian

/-! ## The construction -/

/-- The eight chaining words. -/
structure State (W : Type) where
  a : W
  b : W
  c : W
  d : W
  e : W
  f : W
  g : W
  h : W

/-- The words of a state in order. -/
def State.toList {W : Type} (s : State W) : List W := [s.a, s.b, s.c, s.d, s.e, s.f, s.g, s.h]

/-- What one member of the family fixes. -/
structure Family (W : Type) where
  wordBytes : Nat
  ofNat : Nat → W
  toNat : W → Nat
  largeSigma0 : W → W
  largeSigma1 : W → W
  smallSigma0 : W → W
  smallSigma1 : W → W
  constants : List W
  start : State W

section Construction

variable {W : Type} [Add W] [AndOp W] [XorOp W] [Complement W]

/-- The message, a one bit, zeros up to a whole number of blocks, and the bit length. -/
def pad (F : Family W) (message : List UInt8) : List UInt8 :=
  let block := 16 * F.wordBytes
  let tail := 1 + 2 * F.wordBytes
  let zeros := (block - (message.length + tail) % block) % block
  message ++ 0x80 :: List.replicate zeros 0 ++ bigEndian (2 * F.wordBytes) (8 * message.length)

/-- The next word of a message schedule, from the words before it, latest first. -/
def nextWord (F : Family W) (earlier : List W) : W :=
  let zero := F.ofNat 0
  F.smallSigma1 (earlier.getD 1 zero) + earlier.getD 6 zero +
    F.smallSigma0 (earlier.getD 14 zero) + earlier.getD 15 zero

/-- `n` more words of a schedule, latest first. -/
def extend (F : Family W) : Nat → List W → List W
  | 0, earlier => earlier
  | n + 1, earlier => extend F n (nextWord F earlier :: earlier)

/-- The message schedule of a block: one word for every constant. -/
def schedule (F : Family W) (block : List UInt8) : List W :=
  let words := (chunks F.wordBytes block).map fun bs => F.ofNat (ofBigEndian bs)
  (extend F (F.constants.length - 16) words.reverse).reverse

/-- One round with a constant and a schedule word. -/
def round (F : Family W) (s : State W) (constant word : W) : State W :=
  let choice := (s.e &&& s.f) ^^^ (~~~ s.e &&& s.g)
  let majority := (s.a &&& s.b) ^^^ (s.a &&& s.c) ^^^ (s.b &&& s.c)
  let t := s.h + F.largeSigma1 s.e + choice + constant + word
  ⟨t + F.largeSigma0 s.a + majority, s.a, s.b, s.c, s.d + t, s.e, s.f, s.g⟩

/-- Mixes a block into the state. -/
def compress (F : Family W) (s : State W) (block : List UInt8) : State W :=
  let rounds := F.constants.zip (schedule F block)
  let t := rounds.foldl (fun t (constant, word) => round F t constant word) s
  ⟨s.a + t.a, s.b + t.b, s.c + t.c, s.d + t.d, s.e + t.e, s.f + t.f, s.g + t.g, s.h + t.h⟩

/-- The digest of a message. -/
def digest (F : Family W) (message : List UInt8) : List UInt8 :=
  let final := (chunks (16 * F.wordBytes) (pad F message)).foldl (compress F) F.start
  final.toList.flatMap fun w => bigEndian F.wordBytes (F.toNat w)

/-- A digest has eight words, whatever the message. -/
theorem length_digest (F : Family W) (message : List UInt8) :
    (digest F message).length = 8 * F.wordBytes := by
  simp only [digest, State.toList, List.flatMap_cons, List.flatMap_nil, List.length_append,
    length_bigEndian, List.length_nil]
  omega

end Construction

/-! ## Constants -/

/-- Fractions of the cube roots of the first eighty primes. -/
def cubeRoots : List UInt64 := [
  0x428a2f98d728ae22, 0x7137449123ef65cd, 0xb5c0fbcfec4d3b2f, 0xe9b5dba58189dbbc,
  0x3956c25bf348b538, 0x59f111f1b605d019, 0x923f82a4af194f9b, 0xab1c5ed5da6d8118,
  0xd807aa98a3030242, 0x12835b0145706fbe, 0x243185be4ee4b28c, 0x550c7dc3d5ffb4e2,
  0x72be5d74f27b896f, 0x80deb1fe3b1696b1, 0x9bdc06a725c71235, 0xc19bf174cf692694,
  0xe49b69c19ef14ad2, 0xefbe4786384f25e3, 0x0fc19dc68b8cd5b5, 0x240ca1cc77ac9c65,
  0x2de92c6f592b0275, 0x4a7484aa6ea6e483, 0x5cb0a9dcbd41fbd4, 0x76f988da831153b5,
  0x983e5152ee66dfab, 0xa831c66d2db43210, 0xb00327c898fb213f, 0xbf597fc7beef0ee4,
  0xc6e00bf33da88fc2, 0xd5a79147930aa725, 0x06ca6351e003826f, 0x142929670a0e6e70,
  0x27b70a8546d22ffc, 0x2e1b21385c26c926, 0x4d2c6dfc5ac42aed, 0x53380d139d95b3df,
  0x650a73548baf63de, 0x766a0abb3c77b2a8, 0x81c2c92e47edaee6, 0x92722c851482353b,
  0xa2bfe8a14cf10364, 0xa81a664bbc423001, 0xc24b8b70d0f89791, 0xc76c51a30654be30,
  0xd192e819d6ef5218, 0xd69906245565a910, 0xf40e35855771202a, 0x106aa07032bbd1b8,
  0x19a4c116b8d2d0c8, 0x1e376c085141ab53, 0x2748774cdf8eeb99, 0x34b0bcb5e19b48a8,
  0x391c0cb3c5c95a63, 0x4ed8aa4ae3418acb, 0x5b9cca4f7763e373, 0x682e6ff3d6b2b8a3,
  0x748f82ee5defb2fc, 0x78a5636f43172f60, 0x84c87814a1f0ab72, 0x8cc702081a6439ec,
  0x90befffa23631e28, 0xa4506cebde82bde9, 0xbef9a3f7b2c67915, 0xc67178f2e372532b,
  0xca273eceea26619c, 0xd186b8c721c0c207, 0xeada7dd6cde0eb1e, 0xf57d4f7fee6ed178,
  0x06f067aa72176fba, 0x0a637dc5a2c898a6, 0x113f9804bef90dae, 0x1b710b35131c471b,
  0x28db77f523047d84, 0x32caab7b40c72493, 0x3c9ebe0a15c9bebc, 0x431d67c49c100d4c,
  0x4cc5d4becb3e42b6, 0x597f299cfc657e2a, 0x5fcb6fab3ad6faec, 0x6c44198c4a475817]

/-- Fractions of the square roots of the first eight primes. -/
def squareRoots : State UInt64 :=
  ⟨0x6a09e667f3bcc908, 0xbb67ae8584caa73b, 0x3c6ef372fe94f82b, 0xa54ff53a5f1d36f1,
  0x510e527fade682d1, 0x9b05688c2b3e6c1f, 0x1f83d9abfb41bd6b, 0x5be0cd19137e2179⟩

/-- The high half of a word. -/
def highHalf (w : UInt64) : UInt32 := (w >>> 32).toUInt32

/-! ## The two members -/

/-- A 32-bit word turned right; `n` is from 1 to 31. -/
def turn32 (w : UInt32) (n : UInt32) : UInt32 := (w >>> n) ||| (w <<< (32 - n))

/-- A 64-bit word turned right; `n` is from 1 to 63. -/
def turn64 (w : UInt64) (n : UInt64) : UInt64 := (w >>> n) ||| (w <<< (64 - n))

/-- SHA-256: words of 32 bits, 64 rounds. -/
def family256 : Family UInt32 where
  wordBytes := 4
  ofNat := UInt32.ofNat
  toNat := UInt32.toNat
  largeSigma0 w := turn32 w 2 ^^^ turn32 w 13 ^^^ turn32 w 22
  largeSigma1 w := turn32 w 6 ^^^ turn32 w 11 ^^^ turn32 w 25
  smallSigma0 w := turn32 w 7 ^^^ turn32 w 18 ^^^ (w >>> 3)
  smallSigma1 w := turn32 w 17 ^^^ turn32 w 19 ^^^ (w >>> 10)
  constants := (cubeRoots.take 64).map highHalf
  start :=
    let s := squareRoots
    ⟨highHalf s.a, highHalf s.b, highHalf s.c, highHalf s.d,
      highHalf s.e, highHalf s.f, highHalf s.g, highHalf s.h⟩

/-- SHA-512: words of 64 bits, 80 rounds. -/
def family512 : Family UInt64 where
  wordBytes := 8
  ofNat := UInt64.ofNat
  toNat := UInt64.toNat
  largeSigma0 w := turn64 w 28 ^^^ turn64 w 34 ^^^ turn64 w 39
  largeSigma1 w := turn64 w 14 ^^^ turn64 w 18 ^^^ turn64 w 41
  smallSigma0 w := turn64 w 1 ^^^ turn64 w 8 ^^^ (w >>> 7)
  smallSigma1 w := turn64 w 19 ^^^ turn64 w 61 ^^^ (w >>> 6)
  constants := cubeRoots
  start := squareRoots

/-- The SHA-256 digest, 32 bytes. -/
def sha256 (message : List UInt8) : List UInt8 := digest family256 message

/-- The SHA-512 digest, 64 bytes. -/
def sha512 (message : List UInt8) : List UInt8 := digest family512 message

@[simp] theorem length_sha256 (message : List UInt8) : (sha256 message).length = 32 :=
  length_digest family256 message

@[simp] theorem length_sha512 (message : List UInt8) : (sha512 message).length = 64 :=
  length_digest family512 message

/-- SHA-256 of the SHA-256 digest. -/
def doubleSha256 (bs : List UInt8) : List UInt8 := sha256 (sha256 bs)

/-! ## Keyed hashing -/

/-- HMAC with SHA-256; a key is at most one block, 64 bytes, long. -/
def hmac256 (key message : List UInt8) : List UInt8 :=
  let block := key ++ List.replicate (64 - key.length) 0
  sha256 (block.map (· ^^^ 0x5C) ++ sha256 (block.map (· ^^^ 0x36) ++ message))

end MoveWallet.Digest.Sha2
