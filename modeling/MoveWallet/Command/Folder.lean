/-
# MoveWallet.Command.Folder — texts in a folder, and where a path leads

A `Folder` holds texts under their names, and the name of a text in an inner folder has the names of
both with a slash between.  `Folder.find` follows a path name by name: an empty name and a point
stay, two points go up.  Nothing lies below a text, not even the text itself.  Outside the folder
nothing is known but the folders above it.
-/
import MoveWallet.Text.Separator

namespace MoveWallet.Command

set_option autoImplicit false

open MoveWallet.Text.Separator (dropPrefix? splitChar)

/-- Why a path leads to no text. -/
inductive PathFault where
  | missing
  | notFolder
  | isFolder
  | nameTooLong
  deriving DecidableEq, Repr

/-- The wording of a fault, with its number in the system. -/
def PathFault.message : PathFault → String
  | missing => "No such file or directory (os error 2)"
  | notFolder => "Not a directory (os error 20)"
  | isFolder => "Is a directory (os error 21)"
  | nameTooLong => "File name too long (os error 36)"

/-- The most bytes that one name in a path may have. -/
def longestName : Nat := 255

/-- The most bytes that a path may have. -/
def longestPath : Nat := 4095

/-- The names in a path. -/
def namesOf (path : String) : List (List Char) := splitChar '/' path.toList

/-- A name that leads nowhere else. -/
def isStay (name : List Char) : Bool := name.isEmpty || name == ['.']

/-- Where a path has led so far. -/
inductive Place where
  | above
  | folder (names : List (List Char))
  | text (s : String)

/-- Texts under their names. -/
structure Folder where
  texts : List (String × String)

namespace Folder

/-- What stands under names that lead down from the folder. -/
def below? (f : Folder) (names : List (List Char)) : Option Place :=
  let texts := f.texts.map fun (name, s) => ((namesOf name).filter fun n => !isStay n, s)
  match texts.lookup names with
  | some s => some (.text s)
  | none => if texts.any fun t => names.isPrefixOf t.1 then some (.folder names) else none

/-- Follows one name of a path. -/
def step (f : Folder) (place : Place) (name : List Char) : Except PathFault Place :=
  match place with
  | .text _ => .error .notFolder
  | .above =>
      if isStay name || name == ['.', '.'] then .ok .above
      else if longestName < (String.ofList name).utf8ByteSize then .error .nameTooLong
      else .error .missing
  | .folder names =>
      if isStay name then .ok place
      else if name = ['.', '.'] then .ok (if names.isEmpty then .above else .folder names.dropLast)
      else if longestName < (String.ofList name).utf8ByteSize then .error .nameTooLong
      else match f.below? (names ++ [name]) with
        | some next => .ok next
        | none => .error .missing

/-- The text that a path leads to. -/
def find (f : Folder) (path : String) : Except PathFault String := do
  if path.isEmpty then throw .missing
  if longestPath < path.utf8ByteSize then throw .nameTooLong
  let start := if (dropPrefix? ['/'] path.toList).isSome then Place.above else .folder []
  match ← (namesOf path).foldlM f.step start with
  | .text s => return s
  | _ => throw .isFolder

/-- The text that a path leads to, or why it cannot be read. -/
def read (f : Folder) (path : String) : Except String String :=
  (f.find path).mapError PathFault.message

end Folder

end MoveWallet.Command
