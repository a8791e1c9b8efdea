/-
# MoveWallet.Bytes.Fixed — byte strings of a known length

`FixedBytes n` is a byte string with the proof that it has `n` bytes.  Addresses, digests and keys
are of this kind, so their length never has to be checked twice.
-/
import MoveWallet.Bytes.Endian

namespace MoveWallet.Bytes.Fixed

set_option autoImplicit false

/-- A byte string of `n` bytes. -/
structure FixedBytes (n : Nat) where
  toList : List UInt8
  length_toList : toList.length = n
  deriving DecidableEq

namespace FixedBytes

variable {n : Nat}

@[ext] theorem ext {a b : FixedBytes n} (h : a.toList = b.toList) : a = b := by
  cases a; cases b; cases h; rfl

/-- The bytes, if there are `n` of them. -/
def ofList? (n : Nat) (bs : List UInt8) : Option (FixedBytes n) :=
  if h : bs.length = n then some ⟨bs, h⟩ else none

/-- `n` zero bytes. -/
def zero (n : Nat) : FixedBytes n := ⟨List.replicate n 0, List.length_replicate⟩

/-- The low `n` bytes of a number, most significant first. -/
def bigEndian (n value : Nat) : FixedBytes n :=
  ⟨Endian.bigEndian n value, Endian.length_bigEndian n value⟩

/-- The low `n` bytes of a number, least significant first. -/
def littleEndian (n value : Nat) : FixedBytes n :=
  ⟨Endian.littleEndian n value, Endian.length_littleEndian n value⟩

/-- No byte differs from zero. -/
def isZero (a : FixedBytes n) : Bool := a.toList.all (· == 0)

theorem ofList?_toList (a : FixedBytes n) : ofList? n a.toList = some a := by
  simp [ofList?, a.length_toList]

theorem ofList?_eq_some_iff {bs : List UInt8} {a : FixedBytes n} :
    ofList? n bs = some a ↔ bs = a.toList := by
  constructor
  · intro h
    unfold ofList? at h
    split at h
    · cases h; rfl
    · cases h
  · rintro rfl
    exact ofList?_toList a

end FixedBytes

/-- Byte strings in the order of their first differing byte; a beginning comes before the whole. -/
def lexLe : List UInt8 → List UInt8 → Bool
  | [], _ => true
  | _ :: _, [] => false
  | a :: as, b :: bs => if a = b then lexLe as bs else a < b

end MoveWallet.Bytes.Fixed
