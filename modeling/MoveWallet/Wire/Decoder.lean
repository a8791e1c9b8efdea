/-
# MoveWallet.Wire.Decoder — reading bytes in sequence, and what can go wrong

A `Cursor` is a place in a buffer: the number of bytes read and the bytes still to come.  A
`Decoder` takes a cursor to a value or a fault, and to the cursor where it stopped, also when it
fails, so a reader may go on after a fault.  The primitive `readFixed` either takes all it asked
for or leaves the cursor alone.
-/
import MoveWallet.Bytes.Fixed
import MoveWallet.Text.Hex

namespace MoveWallet.Wire

set_option autoImplicit false

open MoveWallet.Bytes.Fixed

/-! ## Faults -/

/-- Why bytes could not be written or read. -/
inductive WireError where
  | truncated (needed remaining : Nat)
  | lengthOverflow (declared remaining : Nat)
  | unknownVariant (type : String) (index : Nat)
  | deprecatedVariant (name : String)
  | badBool (byte : UInt8)
  | badOptionTag (byte : UInt8)
  | badUtf8
  | uleb128Overflow
  | nonCanonicalUleb128
  | wrongLength (field : String) (expected actual : Nat)
  | trailingBytes (count : Nat)
  | malformedField (name : String)
  deriving DecidableEq, Repr

/-- A byte as two hex digits after `0x`. -/
def byteText (b : UInt8) : String := "0x" ++ Text.Hex.encode [b]

/-- The wording of a fault. -/
def WireError.message : WireError → String
  | .truncated needed remaining =>
      s!"unexpected end of input (needed {needed} bytes, {remaining} remaining)"
  | .lengthOverflow declared remaining =>
      s!"declared length {declared} exceeds remaining input ({remaining} bytes)"
  | .unknownVariant type index => s!"unknown variant index {index} for {type}"
  | .deprecatedVariant name => s!"deprecated variant {name} cannot be decoded"
  | .badBool byte => "invalid bool byte " ++ byteText byte
  | .badOptionTag byte => "invalid option tag " ++ byteText byte
  | .badUtf8 => "invalid utf-8 in string"
  | .uleb128Overflow => "uleb128 value overflows u32"
  | .nonCanonicalUleb128 => "non-canonical uleb128 encoding"
  | .wrongLength field expected actual =>
      s!"invalid length for {field} (expected {expected}, got {actual})"
  | .trailingBytes count => s!"{count} trailing bytes after value"
  | .malformedField name => s!"malformed field: {name}"

/-! ## Cursors and decoders -/

/-- A place in a buffer. -/
structure Cursor where
  position : Nat
  rest : List UInt8
  deriving DecidableEq, Repr

/-- The start of a buffer. -/
def Cursor.start (buffer : List UInt8) : Cursor := ⟨0, buffer⟩

/-- Number of bytes still to come. -/
def Cursor.remaining (c : Cursor) : Nat := c.rest.length

/-- A reader of values: the value or a fault, and where it stopped. -/
def Decoder (α : Type) : Type := Cursor → Except WireError α × Cursor

namespace Decoder

variable {α β : Type}

/-- Gives a value and reads nothing. -/
protected def pure (a : α) : Decoder α := fun c => (.ok a, c)

/-- Reads with `d`, then with what `f` makes of the value; a fault ends the reading where it is. -/
protected def bind (d : Decoder α) (f : α → Decoder β) : Decoder β := fun c =>
  match d c with
  | (.ok a, c') => f a c'
  | (.error e, c') => (.error e, c')

instance : Monad Decoder where
  pure := Decoder.pure
  bind := Decoder.bind

/-- Fails where the cursor stands. -/
def fail (e : WireError) : Decoder α := fun c => (.error e, c)

/-- Number of bytes still to come. -/
def remaining : Decoder Nat := fun c => (.ok c.remaining, c)

/-- The value, or the fault `e` where there is none. -/
def ofOption (e : WireError) : Option α → Decoder α
  | some a => Decoder.pure a
  | none => fail e

/-- Takes `n` bytes, or fails and takes none. -/
def readFixed (n : Nat) : Decoder (FixedBytes n) := fun c =>
  if h : n ≤ c.rest.length then
    (.ok ⟨c.rest.take n, List.length_take_of_le h⟩, ⟨c.position + n, c.rest.drop n⟩)
  else (.error (.truncated n c.remaining), c)

/-- Takes `n` bytes as a list. -/
def readBytes (n : Nat) : Decoder (List UInt8) := do
  let bs ← readFixed n
  return bs.toList

/-- Takes one byte. -/
def readByte : Decoder UInt8 := fun c =>
  match c.rest with
  | b :: rest => (.ok b, ⟨c.position + 1, rest⟩)
  | [] => (.error (.truncated 1 0), c)

/-- Takes `n` bytes that a length announced: too few is a fault of the length. -/
def readAnnounced (n : Nat) : Decoder (List UInt8) := do
  let left ← remaining
  if left < n then fail (.lengthOverflow n left) else readBytes n

/-- Reads `n` values one after another. -/
def readMany (d : Decoder α) : Nat → Decoder (List α)
  | 0 => Decoder.pure []
  | n + 1 => do
      let a ← d
      let as ← readMany d n
      return a :: as

/-- Reads a whole buffer as one value. -/
def run (d : Decoder α) (buffer : List UInt8) : Except WireError α :=
  match d (Cursor.start buffer) with
  | (.ok a, c) => if c.remaining = 0 then .ok a else .error (.trailingBytes c.remaining)
  | (.error e, _) => .error e

end Decoder

end MoveWallet.Wire
