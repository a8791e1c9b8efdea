/-
# MoveWallet.Text.Separator — cutting text at a fixed separator

`dropPrefix?` and `dropSuffix?` take a known text off one end.  `splitFirst?` cuts at the first
place where a separator stands, `splitLast?` at the last; both keep what is on either side.
-/

namespace MoveWallet.Text.Separator

set_option autoImplicit false

/-- What follows `head` in a text that begins with it. -/
def dropPrefix? : List Char → List Char → Option (List Char)
  | [], s => some s
  | _ :: _, [] => none
  | p :: ps, c :: s => if p = c then dropPrefix? ps s else none

/-- What comes before `tail` in a text that ends with it. -/
def dropSuffix? (tail s : List Char) : Option (List Char) :=
  (dropPrefix? tail.reverse s.reverse).map List.reverse

/-- The text before and after the first place where `sep` stands. -/
def splitFirst? (sep : List Char) : List Char → Option (List Char × List Char)
  | [] => none
  | c :: s =>
      match dropPrefix? sep (c :: s) with
      | some after => some ([], after)
      | none => (splitFirst? sep s).map fun (before, after) => (c :: before, after)

/-- The text before and after the last place where `sep` stands. -/
def splitLast? (sep : List Char) : List Char → Option (List Char × List Char)
  | [] => none
  | c :: s =>
      match splitLast? sep s with
      | some (before, after) => some (c :: before, after)
      | none => (dropPrefix? sep (c :: s)).map fun after => ([], after)

/-- A text in which `sep` stands somewhere. -/
def contains (sep s : List Char) : Bool := (splitFirst? sep s).isSome

/-- The parts of a text between the characters `sep`; there is always one part. -/
def splitChar (sep : Char) : List Char → List (List Char)
  | [] => [[]]
  | c :: s =>
      if c = sep then [] :: splitChar sep s
      else match splitChar sep s with
        | part :: parts => (c :: part) :: parts
        | [] => [[c]]

end MoveWallet.Text.Separator
