/-
# MoveWallet.Document.Field — what a reader may expect of a value

Each function takes a value for one kind of thing.  A name from a fixed choice is a text, a table
whose only key is the name and whose value stands for nothing (`Style.isEmpty`), or the last part of
a header that is the whole document.  Notations differ in what stands for nothing and in whether an
optional value may be there as a null.
-/
import MoveWallet.Document.Value

namespace MoveWallet.Document

set_option autoImplicit false

/-- How a notation writes nothing. -/
inductive Style where
  | nulls
  | emptyTables
  deriving DecidableEq, Repr

/-- A value that stands for nothing beside a name. -/
def Style.isEmpty : Style → Value → Bool
  | .nulls, .null => true
  | .emptyTables, .table [] => true
  | _, _ => false

/-- A value that stands for no value. -/
def Style.isAbsent : Style → Value → Bool
  | .nulls, .null => true
  | _, _ => false

namespace Value

/-- A text. -/
def text? : Value → Option String
  | text s => some s
  | _ => none

/-- A truth value. -/
def bool? : Value → Option Bool
  | bool b => some b
  | _ => none

/-- A 64-bit number that is not negative. -/
def word? : Value → Option UInt64
  | integer n => if 0 ≤ n ∧ n < UInt64.size then some (UInt64.ofNat n.toNat) else none
  | _ => none

/-- A name from a fixed choice. -/
def name? (style : Style) : Value → Option String
  | text s => some s
  | table [(name, v)] => if style.isEmpty v then some name else none
  | spread soleHeader _ => soleHeader
  | _ => none

/-- The entries of a table, however it is written.  A date has none that a reader asks for. -/
def entries? : Value → Option Entries
  | table es => some es
  | spread _ es => some es
  | date => some []
  | _ => none

end Value

/-! ## Fields -/

/-- A field under a key that stands at most once, or `standard` without it. -/
def fieldOr? {α : Type} (read : Value → Option α) (standard : α) (key : String) (es : Entries) :
    Option α := do
  match ← field? key es with
  | none => return standard
  | some v => read v

/-- A field that may be missing or, in some notations, null. -/
def optional? {α : Type} (style : Style) (read : Value → Option α) (v : Value) :
    Option (Option α) :=
  if style.isAbsent v then some none else (read v).map some

/-- The item at a place of a list, or `standard` behind its end. -/
def itemOr? {α : Type} (read : Value → Option α) (standard : α) (index : Nat)
    (items : List Value) : Option α :=
  match items[index]? with
  | none => some standard
  | some v => read v

end MoveWallet.Document
