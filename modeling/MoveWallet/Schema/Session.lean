/-
# MoveWallet.Schema.Session — values written and read one after another

A writer appends to what was written before, and a step that fails adds nothing.  A reader goes
through one buffer; a step that fails leaves the cursor where the fault was found, and the next step
goes on from there.
-/
import MoveWallet.Schema.Basic

namespace MoveWallet.Session

set_option autoImplicit false

open MoveWallet.Wire

/-! ## Writing -/

/-- One step of a writer: a value, a length or the index of a variant. -/
inductive WriteStep where
  | value (s : Schema) (v : s.Value)
  | length (n : Nat)
  | variant (index : UInt32)

/-- The bytes that a step adds. -/
def WriteStep.encoding : WriteStep → Encoding
  | value s v => s.codec.encode v
  | length n => encodeLength n
  | variant index => encodeVariant index

/-- What is in the buffer after a step. -/
def WriteStep.apply (t : WriteStep) (buffer : List UInt8) : List UInt8 :=
  match t.encoding with
  | .ok added => buffer ++ added
  | .error _ => buffer

/-- What is in the buffer after all steps. -/
def written (buffer : List UInt8) (steps : List WriteStep) : List UInt8 :=
  steps.foldl (fun buffer t => t.apply buffer) buffer

/-! ## Reading -/

/-- One step of a reader: a value, bytes of an announced length, bytes, a length or the index of a
variant. -/
inductive ReadStep where
  | value (s : Schema)
  | announced (n : Nat)
  | fixed (n : Nat)
  | length
  | variant
  deriving DecidableEq, Repr

namespace ReadStep

/-- What a step reads. -/
def Result : ReadStep → Type
  | value s => s.Value
  | announced _ => List UInt8
  | fixed _ => List UInt8
  | length => Nat
  | variant => Nat

/-- How a step reads. -/
def decoder : (t : ReadStep) → Decoder t.Result
  | value s => s.codec.decode
  | announced n => Decoder.readAnnounced n
  | fixed n => Decoder.readBytes n
  | length => decodeLength
  | variant => decodeVariant

end ReadStep

/-- A step that was taken: what it read or the fault, and the cursor after it. -/
structure Reading where
  step : ReadStep
  result : Except WireError step.Result
  cursor : Cursor

/-- Takes one step. -/
def ReadStep.take (t : ReadStep) (c : Cursor) : Reading :=
  let answer := t.decoder c
  ⟨t, answer.1, answer.2⟩

/-- Takes steps one after another. -/
def readings (c : Cursor) : List ReadStep → List Reading
  | [] => []
  | t :: ts =>
      let reading := t.take c
      reading :: readings reading.cursor ts

end MoveWallet.Session
