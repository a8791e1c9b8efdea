/-
# MoveWallet.Text.Utf8 — text as bytes, and bytes as text

`encode` writes characters as UTF-8.  Reading cuts any byte string into pieces (`pieces`), each a
character or a bad part of greatest length that could still have begun a character.  `decode`
accepts a byte string whose pieces are all characters; `decodeLossy` puts U+FFFD for every bad
part, so it reads every byte string.
-/

namespace MoveWallet.Text.Utf8

set_option autoImplicit false

/-- The UTF-8 form of a text. -/
def encode (s : List Char) : List UInt8 := s.flatMap String.utf8EncodeChar

/-- The UTF-8 form of a string. -/
def bytes (s : String) : List UInt8 := encode s.toList

/-- Length of a string in bytes. -/
def byteLength (s : String) : Nat := (bytes s).length

/-! ## Reading -/

/-- A byte that can follow a lead byte. -/
def isTail (b : UInt8) : Bool := 0x80 ≤ b && b ≤ 0xBF

/-- What a lead byte of several announces: how many bytes follow it, the least and the greatest
value of the first of these, and the bits it gives itself. -/
structure Lead where
  following : Nat
  least : UInt8
  greatest : UInt8
  bits : Nat

/-- Lead bytes by their ranges.  The first following byte is bounded so that no character has two
forms, no surrogate has one, and none lies above U+10FFFF. -/
def lead? (b : UInt8) : Option Lead :=
  if 0xC2 ≤ b && b ≤ 0xDF then some ⟨1, 0x80, 0xBF, b.toNat - 0xC0⟩
  else if b == 0xE0 then some ⟨2, 0xA0, 0xBF, 0⟩
  else if b == 0xED then some ⟨2, 0x80, 0x9F, 0xD⟩
  else if 0xE1 ≤ b && b ≤ 0xEF then some ⟨2, 0x80, 0xBF, b.toNat - 0xE0⟩
  else if b == 0xF0 then some ⟨3, 0x90, 0xBF, 0⟩
  else if 0xF1 ≤ b && b ≤ 0xF3 then some ⟨3, 0x80, 0xBF, b.toNat - 0xF0⟩
  else if b == 0xF4 then some ⟨3, 0x80, 0x8F, 4⟩
  else none

/-- Reads the last `n` bytes of a character whose earlier bytes gave `value`; `taken` bytes after
the lead byte are already used.  Answers the character, if all `n` are there, and the bytes used. -/
def readTail (value taken : Nat) : Nat → List UInt8 → Option Char × Nat
  | 0, _ => (some (Char.ofNat value), taken)
  | _ + 1, [] => (none, taken)
  | n + 1, b :: rest =>
      if isTail b then readTail (value * 64 + (b.toNat - 0x80)) (taken + 1) n rest
      else (none, taken)

/-- Reads one piece that begins with byte `b`: a character or a bad part, and the number of bytes
after `b` that belong to it. -/
def readPiece (b : UInt8) (rest : List UInt8) : Option Char × Nat :=
  if b < 0x80 then (some (Char.ofNat b.toNat), 0)
  else match lead? b, rest with
    | none, _ => (none, 0)
    | some _, [] => (none, 0)
    | some l, c :: rest' =>
        if l.least ≤ c && c ≤ l.greatest then
          readTail (l.bits * 64 + (c.toNat - 0x80)) 1 (l.following - 1) rest'
        else (none, 0)

/-- The pieces of a byte string whose first `n` bytes belong to a piece already read: a character
each, or `none` for a bad part. -/
def piecesAfter : Nat → List UInt8 → List (Option Char)
  | _, [] => []
  | n + 1, _ :: rest => piecesAfter n rest
  | 0, b :: rest =>
      let piece := readPiece b rest
      piece.1 :: piecesAfter piece.2 rest

/-- The pieces of a byte string. -/
def pieces (bs : List UInt8) : List (Option Char) := piecesAfter 0 bs

/-- The text, if every piece is a character. -/
def decode (bs : List UInt8) : Option String := ((pieces bs).mapM id).map String.ofList

/-- The text with U+FFFD in place of every bad part. -/
def decodeLossy (bs : List UInt8) : String :=
  String.ofList ((pieces bs).map (·.getD (Char.ofNat 0xFFFD)))

end MoveWallet.Text.Utf8
