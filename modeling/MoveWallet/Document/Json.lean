/-
# MoveWallet.Document.Json — values as JSON text

`read?` takes a text that is one value with blanks round it.  `write` indents by two blanks and
keeps the order of entries.
-/
import MoveWallet.Document.Value
import MoveWallet.Text.Hex

namespace MoveWallet.Document.Json

set_option autoImplicit false

open MoveWallet.Document

/-! ## Reading -/

/-- The blanks of the notation. -/
def isBlank (c : Char) : Bool := c == ' ' || c == '\n' || c == '\t' || c == '\r'

/-- The text from its first character that is not blank. -/
def skip (s : List Char) : List Char := s.dropWhile isBlank

/-- A decimal digit. -/
def isDigit (c : Char) : Bool := '0' ≤ c && c ≤ '9'

/-- The number of decimal digits. -/
def ofDigits (ds : List Char) : Nat := ds.foldl (fun n d => n * 10 + (d.toNat - 48)) 0

/-- The number of four hex digits, and what follows. -/
def readHex4 : List Char → Option (Nat × List Char)
  | a :: b :: c :: d :: rest => do
      let ds ← [a, b, c, d].mapM fun x =>
        if x.toNat < 128 then Text.Hex.digitValue? (UInt8.ofNat x.toNat) else none
      return (ds.foldl (fun n x => n * 16 + x) 0, rest)
  | _ => none

/-- A text after its opening quote, and what follows; `good` tells whether all characters so far
exist.  A half of a surrogate pair that stands alone is a well-formed escape for no character. -/
def readText : Nat → Bool → List Char → List Char → Option (Value × List Char)
  | 0, _, _, _ => none
  | _ + 1, _, _, [] => none
  | fuel + 1, good, done, c :: rest =>
      if c = '"' then
        some (if good then .text (String.ofList done.reverse) else .other, rest)
      else if c = '\\' then
        match rest with
        | '"' :: r => readText fuel good ('"' :: done) r
        | '\\' :: r => readText fuel good ('\\' :: done) r
        | '/' :: r => readText fuel good ('/' :: done) r
        | 'b' :: r => readText fuel good ('\x08' :: done) r
        | 'f' :: r => readText fuel good ('\x0c' :: done) r
        | 'n' :: r => readText fuel good ('\n' :: done) r
        | 'r' :: r => readText fuel good ('\r' :: done) r
        | 't' :: r => readText fuel good ('\t' :: done) r
        | 'u' :: r =>
            match readHex4 r with
            | none => none
            | some (n, r) =>
                if 0xD800 ≤ n && n < 0xDC00 then
                  match r with
                  | '\\' :: 'u' :: r' =>
                      match readHex4 r' with
                      | none => none
                      | some (m, r') =>
                          if 0xDC00 ≤ m && m < 0xE000 then
                            let point := 0x10000 + (n - 0xD800) * 0x400 + (m - 0xDC00)
                            readText fuel good (Char.ofNat point :: done) r'
                          else readText fuel false done r
                  | _ => readText fuel false done r
                else if 0xDC00 ≤ n && n < 0xE000 then readText fuel false done r
                else readText fuel good (Char.ofNat n :: done) r
        | _ => none
      else if c.toNat < 0x20 then none
      else readText fuel good (c :: done) rest

/-- One or more digits, and what follows. -/
def readDigits (s : List Char) : Option (List Char × List Char) :=
  let ds := s.takeWhile isDigit
  if ds.isEmpty then none else some (ds, s.dropWhile isDigit)

/-- The part after a point, if there is one: whether there was, and what follows. -/
def readFraction : List Char → Option (Bool × List Char)
  | '.' :: s => (readDigits s).map fun (_, r) => (true, r)
  | s => some (false, s)

/-- The exponent, if there is one: whether there was, and what follows. -/
def readExponent : List Char → Option (Bool × List Char)
  | c :: s =>
      if c = 'e' || c = 'E' then
        let digits := match s with
          | '+' :: r => r
          | '-' :: r => r
          | r => r
        (readDigits digits).map fun (_, r) => (true, r)
      else some (false, c :: s)
  | [] => some (false, [])

/-- A number, and what follows.  Only whole numbers of 64 bits are of use. -/
def readNumber (negative : Bool) (s : List Char) : Option (Value × List Char) := do
  let (ds, r) ← readDigits s
  if ds.length > 1 && ds.head? == some '0' then none
  else
    let (fraction, r) ← readFraction r
    let (exponent, r) ← readExponent r
    let n := ofDigits ds
    let value :=
      if fraction || exponent then Value.other
      else if negative then
        if 0 < n && 2 * n ≤ UInt64.size then .integer (-n) else .other
      else if n < UInt64.size then .integer n
      else .other
    return (value, r)

/-- What follows a word that the text begins with. -/
def afterWord (word : String) (s : List Char) : Option (List Char) :=
  let w := word.toList
  if s.take w.length = w then some (s.drop w.length) else none

/-- The value of a table with one more entry in front.  A table with a key of no existing character
is well-formed and of no use. -/
def withEntry (key v rest : Value) : Value :=
  match key, rest with
  | .text k, .table es => .table ((k, v) :: es)
  | _, _ => .other

mutual

/-- A value that begins at the first character, and what follows. -/
def readValue : Nat → List Char → Option (Value × List Char)
  | 0, _ => none
  | _ + 1, [] => none
  | fuel + 1, c :: s =>
      if c = '"' then readText (s.length + 1) true [] s
      else if c = '[' then
        match skip s with
        | ']' :: r => some (.list [], r)
        | r => (readItems fuel r).map fun (vs, r) => (.list vs, r)
      else if c = '\x7b' then
        match skip s with
        | '\x7d' :: r => some (.table [], r)
        | r => readMembers fuel r
      else if c = '-' then readNumber true s
      else if isDigit c then readNumber false (c :: s)
      else if c = 'n' then (afterWord "ull" s).map fun r => (.null, r)
      else if c = 't' then (afterWord "rue" s).map fun r => (.bool true, r)
      else if c = 'f' then (afterWord "alse" s).map fun r => (.bool false, r)
      else none

/-- The items of a list from one that begins at the first character, and what follows the list. -/
def readItems : Nat → List Char → Option (List Value × List Char)
  | 0, _ => none
  | fuel + 1, s => do
      let (v, r) ← readValue fuel s
      match skip r with
      | ',' :: r => do
          let (vs, r) ← readItems fuel (skip r)
          return (v :: vs, r)
      | ']' :: r => return ([v], r)
      | _ => none

/-- The rest of a table from an entry whose key begins at the first character, and what follows the
table. -/
def readMembers : Nat → List Char → Option (Value × List Char)
  | 0, _ => none
  | fuel + 1, s =>
      match s with
      | '"' :: s => do
          let (k, r) ← readText (s.length + 1) true [] s
          match skip r with
          | ':' :: r => do
              let (v, r) ← readValue fuel (skip r)
              match skip r with
              | ',' :: r => do
                  let (rest, r) ← readMembers fuel (skip r)
                  return (withEntry k v rest, r)
              | '\x7d' :: r => return (withEntry k v (.table []), r)
              | _ => none
          | _ => none
      | _ => none

end

/-- The value that a text is. -/
def read? (text : String) : Option Value :=
  let s := text.toList
  match readValue (2 * s.length + 2) (skip s) with
  | some (v, r) => if (skip r).isEmpty then some v else none
  | none => none

/-! ## Writing -/

/-- One character of a quoted text. -/
def escape (c : Char) : List Char :=
  if c = '"' then ['\\', '"']
  else if c = '\\' then ['\\', '\\']
  else if c = '\n' then ['\\', 'n']
  else if c = '\r' then ['\\', 'r']
  else if c = '\t' then ['\\', 't']
  else if c = '\x08' then ['\\', 'b']
  else if c = '\x0c' then ['\\', 'f']
  else if c.toNat < 0x20 then
    ['\\', 'u', '0', '0', Text.Hex.digit (c.toNat / 16), Text.Hex.digit (c.toNat % 16)]
  else [c]

/-- A quoted text. -/
def quoted (s : String) : String := String.ofList (['"'] ++ s.toList.flatMap escape ++ ['"'])

/-- A line end and the blanks of a depth. -/
def newline (depth : Nat) : String := String.ofList ('\n' :: List.replicate (2 * depth) ' ')

mutual

/-- A value at a depth. -/
def write (depth : Nat) : Value → String
  | .null => "null"
  | .bool b => if b then "true" else "false"
  | .integer n => toString n
  | .text s => quoted s
  | .list [] => "[]"
  | .list (v :: vs) =>
      "[" ++ newline (depth + 1) ++ write (depth + 1) v ++ writeItems (depth + 1) vs ++
        newline depth ++ "]"
  | .table es => writeTable depth es
  | .spread _ es => writeTable depth es
  | .date => "null"
  | .other => "null"

/-- Further items of a list. -/
def writeItems (depth : Nat) : List Value → String
  | [] => ""
  | v :: vs => "," ++ newline depth ++ write depth v ++ writeItems depth vs

/-- A table at a depth. -/
def writeTable (depth : Nat) : Entries → String
  | [] => "\x7b\x7d"
  | (key, v) :: es =>
      "\x7b" ++ newline (depth + 1) ++ quoted key ++ ": " ++ write (depth + 1) v ++
        writeEntries (depth + 1) es ++ newline depth ++ "\x7d"

/-- Further entries of a table. -/
def writeEntries (depth : Nat) : Entries → String
  | [] => ""
  | (key, v) :: es =>
      "," ++ newline depth ++ quoted key ++ ": " ++ write depth v ++ writeEntries depth es

end

end MoveWallet.Document.Json
