/-
# MoveWallet.Schema.Name — schemas by name

A composition is a word with its parts between angle brackets: `vec<T>` or `vector<T>`, `option<T>`,
`box<T>`, `pair<A,B>`.  The words for leaves are the caller's.  A list of single bytes is the leaf
`bytes`.
-/
import MoveWallet.Schema.Basic

namespace MoveWallet

set_option autoImplicit false

namespace Schema

/-- Lists of a schema. -/
def vecOf : Schema → Schema
  | .leaf (.uint .w8) => .leaf .bytes
  | item => .vec item

/-- Reads a schema off the front of a text, with at most `fuel` words in a chain. -/
def readFront? (leaf? : String → Option Leaf) : Nat → List Char → Option (Schema × List Char)
  | 0, _ => none
  | fuel + 1, s =>
      let inName := fun c => Char.isAlphanum c || c == '_'
      let s := s.dropWhile (· == ' ')
      let name := String.ofList (s.takeWhile inName)
      match s.dropWhile inName with
      | '<' :: rest => do
          let (first, rest) ← readFront? leaf? fuel rest
          match name, rest with
          | "vec", '>' :: rest => some (vecOf first, rest)
          | "vector", '>' :: rest => some (vecOf first, rest)
          | "option", '>' :: rest => some (.option first, rest)
          | "box", '>' :: rest => some (.box first, rest)
          | "pair", ',' :: rest =>
              match ← readFront? leaf? fuel rest with
              | (second, '>' :: rest) => some (.pair first second, rest)
              | _ => none
          | _, _ => none
      | rest => (leaf? name).map fun l => (.leaf l, rest)

/-- The schema of a name, given the leaves by their words.  Each step into a composition passes a
character, so the length of the name is fuel enough. -/
def ofName? (leaf? : String → Option Leaf) (name : String) : Option Schema :=
  match readFront? leaf? (name.toList.length + 1) name.toList with
  | some (s, []) => some s
  | _ => none

end Schema

end MoveWallet
