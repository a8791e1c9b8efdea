/-
# MoveWallet.Move.TypeTag.Basic — types of Move values

A type is primitive, a vector, or a struct with type parameters of any number and depth.  `weight`
is the measure that bounds what is read: a vector adds one level and a struct with parameters two.
`render` writes a type with addresses in their short or in their full form.
-/
import MoveWallet.Move.Identifier

namespace MoveWallet.Move

set_option autoImplicit false

open MoveWallet.Account

/-- The types without parts. -/
inductive Primitive where
  | bool
  | u8
  | u16
  | u32
  | u64
  | u128
  | u256
  | address
  | signer
  deriving DecidableEq, Repr

namespace Primitive

/-- The word for a primitive type. -/
def word : Primitive → String
  | .bool => "bool"
  | .u8 => "u8"
  | .u16 => "u16"
  | .u32 => "u32"
  | .u64 => "u64"
  | .u128 => "u128"
  | .u256 => "u256"
  | .address => "address"
  | .signer => "signer"

/-- The place of a primitive type among all kinds of types; vectors are 6 and structs 7. -/
def rank : Primitive → Nat
  | .bool => 0
  | .u8 => 1
  | .u64 => 2
  | .u128 => 3
  | .address => 4
  | .signer => 5
  | .u16 => 8
  | .u32 => 9
  | .u256 => 10

/-- The primitive type that a word stands for. -/
def ofWord? (s : List Char) : Option Primitive :=
  match String.ofList s with
  | "bool" => some .bool
  | "u8" => some .u8
  | "u16" => some .u16
  | "u32" => some .u32
  | "u64" => some .u64
  | "u128" => some .u128
  | "u256" => some .u256
  | "address" => some .address
  | "signer" => some .signer
  | _ => none

/-- The primitive type at a place. -/
def ofRank? : Nat → Option Primitive
  | 0 => some .bool
  | 1 => some .u8
  | 2 => some .u64
  | 3 => some .u128
  | 4 => some .address
  | 5 => some .signer
  | 8 => some .u16
  | 9 => some .u32
  | 10 => some .u256
  | _ => none

end Primitive

/-- The type of a value.  A struct is named by address, module and name. -/
inductive TypeTag where
  | primitive (p : Primitive)
  | vector (element : TypeTag)
  | struct (address : Address) (module name : Identifier) (params : List TypeTag)

mutual

/-- Types are compared part by part. -/
def TypeTag.decEq : (s t : TypeTag) → Decidable (s = t)
  | .primitive p, .primitive q =>
      if h : p = q then isTrue (by rw [h]) else isFalse (by simp [h])
  | .vector s, .vector t =>
      match s.decEq t with
      | isTrue h => isTrue (by rw [h])
      | isFalse h => isFalse (by simp [h])
  | .struct a m n ps, .struct b k l qs =>
      match decEqParams ps qs with
      | isTrue h =>
          if h' : a = b ∧ m = k ∧ n = l then isTrue (by rw [h, h'.1, h'.2.1, h'.2.2])
          else isFalse (by intro e; cases e; exact h' ⟨rfl, rfl, rfl⟩)
      | isFalse h => isFalse (by intro e; cases e; exact h rfl)
  | .primitive _, .vector _ => isFalse (by simp)
  | .primitive _, .struct .. => isFalse (by simp)
  | .vector _, .primitive _ => isFalse (by simp)
  | .vector _, .struct .. => isFalse (by simp)
  | .struct .., .primitive _ => isFalse (by simp)
  | .struct .., .vector _ => isFalse (by simp)

/-- Parameters are compared one by one. -/
def decEqParams : (ss ts : List TypeTag) → Decidable (ss = ts)
  | [], [] => isTrue rfl
  | [], _ :: _ => isFalse (by simp)
  | _ :: _, [] => isFalse (by simp)
  | s :: ss, t :: ts =>
      match s.decEq t with
      | isTrue h =>
          match decEqParams ss ts with
          | isTrue h' => isTrue (by rw [h, h'])
          | isFalse h' => isFalse (by simp [h'])
      | isFalse h => isFalse (by simp [h])

end

instance : DecidableEq TypeTag := TypeTag.decEq

/-- A struct type. -/
structure StructTag where
  address : Address
  module : Identifier
  name : Identifier
  params : List TypeTag
  deriving DecidableEq

/-- A struct type as a type. -/
def StructTag.toTypeTag (s : StructTag) : TypeTag := .struct s.address s.module s.name s.params

/-- `n` vectors round a type. -/
def TypeTag.nest : Nat → TypeTag → TypeTag
  | 0, t => t
  | n + 1, t => .vector (nest n t)

/-! ## Depth -/

/-- The deepest level at which a type may stand. -/
def maxDepth : Nat := 16

mutual

/-- How many levels a type reaches below its own: none for a primitive or a bare struct, one more
than its element for a vector, two more than its heaviest parameter for a struct with any. -/
def TypeTag.weight : TypeTag → Nat
  | .primitive _ => 0
  | .vector t => 1 + t.weight
  | .struct _ _ _ ps => paramsWeight ps

/-- The weight of a struct with given parameters. -/
def paramsWeight : List TypeTag → Nat
  | [] => 0
  | t :: ts => max (2 + t.weight) (paramsWeight ts)

end

/-! ## Text -/

/-- How addresses are written inside a type. -/
inductive AddressForm where
  | short
  | full
  deriving DecidableEq, Repr

/-- An address in one of the forms: as it is displayed, or all digits and no `0x`. -/
def AddressForm.write : AddressForm → Address → List Char
  | .short, a => a.toHex.toList
  | .full, a => a.digits.toList

/-- A struct's path. -/
def renderPath (form : AddressForm) (a : Address) (m n : Identifier) : List Char :=
  form.write a ++ "::".toList ++ m.text.toList ++ "::".toList ++ n.text.toList

mutual

/-- The characters of a type. -/
def TypeTag.render (form : AddressForm) : TypeTag → List Char
  | .primitive p => p.word.toList
  | .vector t => "vector<".toList ++ t.render form ++ ['>']
  | .struct a m n [] => renderPath form a m n
  | .struct a m n (t :: ts) =>
      renderPath form a m n ++ '<' :: t.render form ++ renderMore form ts ++ ['>']

/-- The characters of further parameters, each after a comma and a blank. -/
def renderMore (form : AddressForm) : List TypeTag → List Char
  | [] => []
  | t :: ts => ", ".toList ++ t.render form ++ renderMore form ts

end

/-- A type as it is displayed. -/
def TypeTag.toText (t : TypeTag) : String := String.ofList (t.render .short)

/-- A struct type as it is displayed. -/
def StructTag.toText (s : StructTag) : String := s.toTypeTag.toText

/-- A struct type with full addresses, the name that named objects are keyed by. -/
def StructTag.canonical (s : StructTag) : String := String.ofList (s.toTypeTag.render .full)

/-! ## Order -/

/-- The place of a type among the kinds of types. -/
def TypeTag.rank : TypeTag → Nat
  | .primitive p => p.rank
  | .vector _ => 6
  | .struct .. => 7

/-- Addresses by their bytes. -/
def compareAddress (a b : Address) : Ordering :=
  if a = b then .eq else if a.le b then .lt else .gt

mutual

/-- Types by kind, vectors by their elements, structs by address, module, name and parameters. -/
def TypeTag.compare : TypeTag → TypeTag → Ordering
  | .vector s, .vector t => s.compare t
  | .struct a m n ps, .struct b k l qs =>
      (compareAddress a b).then ((m.compare k).then ((n.compare l).then (compareParams ps qs)))
  | s, t => Ord.compare s.rank t.rank

/-- Parameter by parameter; a beginning comes before the whole. -/
def compareParams : List TypeTag → List TypeTag → Ordering
  | [], [] => .eq
  | [], _ :: _ => .lt
  | _ :: _, [] => .gt
  | s :: ss, t :: ts => (s.compare t).then (compareParams ss ts)

end

/-- Types in order. -/
def TypeTag.le (s t : TypeTag) : Bool := s.compare t != .gt

/-- The types of a list in order. -/
def TypeTag.sorted (ts : List TypeTag) : List TypeTag := ts.mergeSort TypeTag.le

end MoveWallet.Move
