/-
# MoveWallet.Document.Value — what a configuration document or a report says

One tree serves the notations that are read and written.  Tables keep their entries in order and
may hold a key more than once; `field?` refuses a key that stands twice, so a reader notices only
the repeats of keys it asks for.
-/

namespace MoveWallet.Document

set_option autoImplicit false

/-- A value.  `other` stands for what is right in its notation and of no use to a reader here, such
as a fraction.  `spread` is a table under headers or keys of several parts; where one header with no
lines is the whole document, it carries the last part of that header. -/
inductive Value where
  | null
  | bool (b : Bool)
  | integer (n : Int)
  | text (s : String)
  | list (items : List Value)
  | table (entries : List (String × Value))
  | spread (soleHeader : Option String) (entries : List (String × Value))
  | date
  | other

/-- The entries of a table. -/
abbrev Entries : Type := List (String × Value)

/-- The values that stand under a key. -/
def valuesOf (key : String) (entries : Entries) : List Value :=
  (entries.filter fun e => e.1 == key).map Prod.snd

/-- The value under a key, if there is one; none if there are several. -/
def field? (key : String) (entries : Entries) : Option (Option Value) :=
  match valuesOf key entries with
  | [] => some none
  | [v] => some (some v)
  | _ => none

end MoveWallet.Document
