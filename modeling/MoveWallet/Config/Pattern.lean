/-
# MoveWallet.Config.Pattern — which texts are patterns

A pattern is a regular expression over characters: literals, bracketed classes, groups, choices and
the three marks of repetition.  `isPattern` tells whether a text is one.  A brace stands only behind
a backslash, for a pattern is written between braces itself.  What needs tables of properties is no
pattern: the classes of digits, blanks and word characters, the edges of words, and matching without
regard to case.
-/
import MoveWallet.Text.Alphanumeric
import MoveWallet.Text.Hex

namespace MoveWallet.Config.Pattern

set_option autoImplicit false

open MoveWallet.Text
open MoveWallet.Text.Alphanumeric

/-! ## Escapes -/

/-- The character of `n` hex digits, and what follows. -/
def codePoint? (n : Nat) (s : List Char) : Option (Char × List Char) := do
  let ds ← (s.take n).mapM fun x =>
    if x.toNat < 128 then Hex.digitValue? (UInt8.ofNat x.toNat) else none
  let v := ds.foldl (fun v d => v * 16 + d) 0
  if ds.length = n && (v < 0xD800 || (0xE000 ≤ v && v < 0x110000)) then
    return (Char.ofNat v, s.drop n)
  else none

/-- What stands behind a backslash, and what follows: a character, or nothing for one of the two
ends of the text that is searched. -/
def escape? : List Char → Option (Option Char × List Char)
  | [] => none
  | 'x' :: r => (codePoint? 2 r).map fun (c, r) => (some c, r)
  | 'u' :: r => (codePoint? 4 r).map fun (c, r) => (some c, r)
  | 'U' :: r => (codePoint? 8 r).map fun (c, r) => (some c, r)
  | 'a' :: r => some (some '\x07', r)
  | 'f' :: r => some (some '\x0c', r)
  | 't' :: r => some (some '\t', r)
  | 'n' :: r => some (some '\n', r)
  | 'r' :: r => some (some '\r', r)
  | 'v' :: r => some (some '\x0b', r)
  | 'A' :: r => some (none, r)
  | 'z' :: r => some (none, r)
  | c :: r =>
      if c.toNat < 128 && !c.isAlphanum && c != '<' && c != '>' then some (some c, r) else none

/-! ## Classes -/

/-- The names of classes between colons. -/
def classNames : List String :=
  ["alnum", "alpha", "ascii", "blank", "cntrl", "digit", "graph", "lower", "print", "punct", "space",
    "upper", "word", "xdigit"]

/-- What follows a named class after its bracket. -/
def namedClass? (s : List Char) : Option (List Char) := do
  let s ← match s with
    | ':' :: '^' :: r => some r
    | ':' :: r => some r
    | _ => none
  let name := s.takeWhile (· != ':')
  match s.drop name.length with
  | ':' :: ']' :: r => if classNames.any fun n => n.toList == name then some r else none
  | _ => none

/-- What follows the beginning of a class after its bracket: a mark of negation, hyphens that stand
for themselves, and a closing bracket that does if it comes first. -/
def enterClass (s : List Char) : List Char :=
  let s := match s with
    | '^' :: r => r
    | r => r
  match s with
  | ']' :: r => r
  | r => r.dropWhile (· == '-')

/-- One character of a class, and what follows. -/
def classItem? : List Char → Option (Char × List Char)
  | [] => none
  | '\\' :: r =>
      match escape? r with
      | some (some c, r) => some (c, r)
      | _ => none
  | c :: r => some (c, r)

/-- What follows a class, `depth` classes being open round it. -/
def class? : Nat → Nat → List Char → Option (List Char)
  | 0, _, _ => none
  | fuel + 1, depth, s =>
      match s with
      | [] => none
      | '[' :: r =>
          match namedClass? r with
          | some r => class? fuel depth r
          | none => class? fuel (depth + 1) (enterClass r)
      | ']' :: r => if depth = 0 then some r else class? fuel (depth - 1) r
      | '&' :: '&' :: r => class? fuel depth r
      | '-' :: '-' :: r => class? fuel depth r
      | '~' :: '~' :: r => class? fuel depth r
      | s => do
          let (low, r) ← classItem? s
          match r with
          | '-' :: c :: r' =>
              if c = ']' || c = '-' then class? fuel depth r
              else
                let (high, r) ← classItem? (c :: r')
                if low ≤ high then class? fuel depth r else none
          | r => class? fuel depth r

/-! ## Groups -/

/-- What the beginning of a group is: a group with or without a name, or flags alone. -/
inductive Opening where
  | group (name : Option (List Char))
  | flags

/-- A name for a group. -/
def isGroupName (name : List Char) : Bool :=
  match name with
  | [] => false
  | c :: r =>
      (c == '_' || isAlphabetic c) &&
        r.all fun c => c == '_' || c == '.' || c == '[' || c == ']' || isAlphanumeric c

/-- Flags: letters that are switched on and, after a hyphen, others that are switched off. -/
def areFlags (s : List Char) : Bool :=
  let on := s.takeWhile (· != '-')
  let off := (s.drop on.length).drop 1
  let all := on ++ off
  all.all (fun c => ['i', 'm', 's', 'u', 'U', 'R', 'x'].contains c) && all.eraseDups == all &&
    !on.contains 'i' && (on.length == s.length || !off.isEmpty)

/-- The beginning of a group after its parenthesis, and what follows. -/
def opening? (s : List Char) : Option (Opening × List Char) :=
  let named := fun (r : List Char) =>
    let name := r.takeWhile (· != '>')
    match r.drop name.length with
    | _ :: r => if isGroupName name then some (Opening.group (some name), r) else none
    | [] => none
  match s with
  | '?' :: 'P' :: '<' :: r => named r
  | '?' :: '<' :: r => named r
  | '?' :: r =>
      let flags := r.takeWhile fun c => c != ':' && c != ')'
      match r.drop flags.length with
      | ':' :: r => if areFlags flags then some (.group none, r) else none
      | ')' :: r => if areFlags flags && !flags.isEmpty then some (.flags, r) else none
      | _ => none
  | r => some (.group none, r)

/-! ## Patterns -/

/-- The rest of a pattern is right: `depth` groups are open, `names` are taken, and `operand` tells
whether there is something that a mark of repetition can repeat. -/
def isRest : Nat → Nat → List (List Char) → Bool → List Char → Bool
  | 0, _, _, _, _ => false
  | _ + 1, depth, _, _, [] => depth == 0
  | fuel + 1, depth, names, operand, c :: s =>
      if c = '(' then
        match opening? s with
        | none => false
        | some (.flags, r) => isRest fuel depth names false r
        | some (.group none, r) => isRest fuel (depth + 1) names false r
        | some (.group (some name), r) =>
            !names.contains name && isRest fuel (depth + 1) (name :: names) false r
      else if c = ')' then 0 < depth && isRest fuel (depth - 1) names true s
      else if c = '|' then isRest fuel depth names false s
      else if c = '*' || c = '+' || c = '?' then
        operand && isRest fuel depth names true (match s with
          | '?' :: r => r
          | r => r)
      else if c = '\x7b' then false
      else if c = '[' then
        match class? (s.length + 1) 0 (enterClass s) with
        | none => false
        | some r => isRest fuel depth names true r
      else if c = '\\' then
        match escape? s with
        | none => false
        | some (_, r) => isRest fuel depth names true r
      else isRest fuel depth names true s

/-- A pattern. -/
def isPattern (s : List Char) : Bool := isRest (s.length + 1) 0 [] false s

end MoveWallet.Config.Pattern
