/-
# MoveWallet.Document.Toml — values as TOML text

`read?` takes a document of version 0.5: key lines, and tables and arrays of tables under headers.
A header may not stand twice, but a key may; who reads the entries sees to that.  Floats and dates
are read for their form alone.

A line end is a line feed, with or without a carriage return in front (`foldLines`).
-/
import MoveWallet.Document.Value
import MoveWallet.Text.Hex

namespace MoveWallet.Document.Toml

set_option autoImplicit false

open MoveWallet.Document

/-! ## Lines and blanks -/

/-- Every line end as one line feed. -/
def foldLines : List Char → List Char
  | '\r' :: '\n' :: s => '\n' :: foldLines s
  | c :: s => c :: foldLines s
  | [] => []

/-- A blank inside a line. -/
def isBlank (c : Char) : Bool := c == ' ' || c == '\t'

/-- The text from its first character that is not blank. -/
def skip (s : List Char) : List Char := s.dropWhile isBlank

/-- A character of a comment. -/
def inComment (c : Char) : Bool := c == '\t' || 0x20 ≤ c.toNat

/-- What follows the end of a line, which may have blanks and a comment in front. -/
def endLine? (s : List Char) : Option (List Char) :=
  let r := match skip s with
    | '#' :: r => r.dropWhile inComment
    | r => r
  match r with
  | [] => some []
  | '\n' :: r => some r
  | _ => none

/-- A character of a bare word. -/
def isBare (c : Char) : Bool :=
  ('a' ≤ c && c ≤ 'z') || ('A' ≤ c && c ≤ 'Z') || ('0' ≤ c && c ≤ '9') || c == '_' || c == '-'

/-- A bare word and what follows. -/
def bare? (s : List Char) : Option (List Char × List Char) :=
  let w := s.takeWhile isBare
  if w.isEmpty then none else some (w, s.dropWhile isBare)

/-! ## Texts -/

/-- A character that may stand in a text as it is. -/
def isPlain (c : Char) : Bool := c == '\t' || (0x20 ≤ c.toNat && c.toNat ≠ 0x7F)

/-- The character of `n` hex digits, and what follows. -/
def codePoint? (n : Nat) (s : List Char) : Option (Char × List Char) := do
  let ds ← (s.take n).mapM fun x =>
    if x.toNat < 128 then Text.Hex.digitValue? (UInt8.ofNat x.toNat) else none
  let v := ds.foldl (fun v d => v * 16 + d) 0
  if ds.length = n && (v < 0xD800 || (0xE000 ≤ v && v < 0x110000)) then
    return (Char.ofNat v, s.drop n)
  else none

/-- What follows a backslash that ends a line: the text from its next character that is neither
blank nor a line end. -/
def continueLine? (s : List Char) : Option (List Char) :=
  match skip s with
  | '\n' :: r => some (r.dropWhile fun c => isBlank c || c == '\n')
  | _ => none

/-- What an escape stands for, and what follows.  In a text of several lines an escaped line end
stands for nothing. -/
def escape? (multiline : Bool) : List Char → Option (List Char × List Char)
  | '"' :: r => some (['"'], r)
  | '\\' :: r => some (['\\'], r)
  | 'b' :: r => some (['\x08'], r)
  | 'f' :: r => some (['\x0c'], r)
  | 'n' :: r => some (['\n'], r)
  | 'r' :: r => some (['\r'], r)
  | 't' :: r => some (['\t'], r)
  | 'u' :: r => (codePoint? 4 r).map fun (c, r) => ([c], r)
  | 'U' :: r => (codePoint? 8 r).map fun (c, r) => ([c], r)
  | r => if multiline then (continueLine? r).map fun r => ([], r) else none

/-- The closing quotes of a text of several lines, if it ends here: up to two quotes of the text's
own stand in front of them. -/
def closing? (quote : Char) (s : List Char) : Option (List Char × List Char) :=
  if s.take 3 = [quote, quote, quote] then
    let extra := ((s.drop 3).take 2).takeWhile (· == quote)
    some (extra, s.drop (3 + extra.length))
  else none

/-- The rest of a text after `done`, reversed, and what follows it. -/
def readText (quote : Char) (multiline : Bool) :
    Nat → List Char → List Char → Option (String × List Char)
  | 0, _, _ => none
  | _ + 1, _, [] => none
  | fuel + 1, done, c :: s =>
      if c = quote then
        if multiline then
          match closing? quote (c :: s) with
          | some (extra, r) => some (String.ofList (done.reverse ++ extra), r)
          | none => readText quote multiline fuel (c :: done) s
        else some (String.ofList done.reverse, s)
      else if c = '\n' then
        if multiline then readText quote multiline fuel ('\n' :: done) s else none
      else if c = '\\' && quote == '"' then
        match escape? multiline s with
        | some (cs, r) => readText quote multiline fuel (cs.reverse ++ done) r
        | none => none
      else if isPlain c then readText quote multiline fuel (c :: done) s
      else none

/-- A text from its opening quotes on, whether it may span lines, and what follows.  A line end
right after three opening quotes does not count. -/
def text? (quote : Char) (s : List Char) : Option (String × Bool × List Char) :=
  match s with
  | a :: b :: c :: r =>
      if a = quote && b == quote && c == quote then
        let r := match r with
          | '\n' :: r => r
          | r => r
        (readText quote true (r.length + 1) [] r).map fun (t, r) => (t, true, r)
      else if a = quote then
        (readText quote false s.length [] (b :: c :: r)).map fun (t, r) => (t, false, r)
      else none
  | a :: r =>
      if a = quote then
        (readText quote false s.length [] r).map fun (t, r) => (t, false, r)
      else none
  | [] => none

/-! ## Keys -/

/-- One part of a key. -/
def keyPart? (s : List Char) : Option (String × List Char) :=
  match s with
  | '"' :: _ => (text? '"' s).bind fun (t, multiline, r) => if multiline then none else some (t, r)
  | '\'' :: _ =>
      (text? '\'' s).bind fun (t, multiline, r) => if multiline then none else some (t, r)
  | _ => (bare? s).map fun (w, r) => (String.ofList w, r)

/-- A key: parts between points, and what follows it and its blanks. -/
def key? : Nat → List Char → Option (List String × List Char)
  | 0, _ => none
  | fuel + 1, s => do
      let (part, r) ← keyPart? s
      match skip r with
      | '.' :: r => do
          let (parts, r) ← key? fuel (skip r)
          return (part :: parts, r)
      | r => return ([part], r)

/-- Puts a value under a key of one or more parts.  All parts but the last name tables that keys
alone make up. -/
def insert? : List String → Value → Entries → Option Entries
  | [], _, _ => none
  | [k], v, es => some (es ++ [(k, v)])
  | k :: ks, v, es =>
      let before := es.takeWhile fun e => e.1 != k
      match es.dropWhile fun e => e.1 != k with
      | [] => (insert? ks v []).map fun inner => es ++ [(k, .spread none inner)]
      | (_, .spread sole inner) :: after =>
          (insert? ks v inner).map fun inner => before ++ (k, .spread sole inner) :: after
      | _ => none

/-! ## Numbers and dates -/

/-- A digit of a base up to 16. -/
def digitIn? (base : Nat) (c : Char) : Option Nat :=
  if c.toNat < 128 then
    match Text.Hex.digitValue? (UInt8.ofNat c.toNat) with
    | some d => if d < base then some d else none
    | none => none
  else none

/-- The digits that a word begins with, and the rest of the word.  Single underscores may stand
between digits; a zero in front of others has to be allowed. -/
def scanDigits (base : Nat) (zeros : Bool) :
    Bool → Bool → Bool → List Char → Option (List Nat × List Char)
  | first, _, underscore, [] => if first || underscore then none else some ([], [])
  | first, zeroFirst, underscore, c :: s =>
      match digitIn? base c with
      | some d =>
          if !first && zeroFirst && !zeros then none
          else
            (scanDigits base zeros false (if first then d == 0 else zeroFirst) false s).map
              fun (ds, r) => (d :: ds, r)
      | none =>
          if c = '_' && first then none
          else if c = '_' && !underscore then scanDigits base zeros false zeroFirst true s
          else if first || underscore then none
          else some ([], c :: s)

/-- A word without its sign, and whether it is negative. -/
def splitSign : List Char → Bool × List Char
  | '-' :: s => (true, s)
  | s => (false, s)

/-- The number of digits. -/
def ofDigits (base : Nat) (ds : List Nat) : Nat := ds.foldl (fun n d => n * base + d) 0

/-- The whole number of 64 bits that a word is. -/
def integer? (base : Nat) (signed zeros : Bool) (word : List Char) : Option Value :=
  let (negative, ds) := if signed then splitSign word else (false, word)
  match scanDigits base zeros true false false ds with
  | some (digits, []) =>
      let n := ofDigits base digits
      if negative then if 2 * n ≤ UInt64.size then some (.integer (-n)) else none
      else if 2 * n < UInt64.size then some (.integer n) else none
  | _ => none

/-- The number of digits with a point after `whole` of them and an exponent is not too large. -/
def isFinite (digits : List Nat) (fractionDigits : Nat) (negativeExponent : Bool)
    (exponent : Nat) : Bool :=
  let m := ofDigits 10 digits
  let limit := (1 <<< 1024) - (1 <<< 970)
  if m = 0 then true
  else if negativeExponent then
    if digits.length < exponent then true else m < limit * Nat.pow 10 (fractionDigits + exponent)
  else if exponent > 400 + fractionDigits then false
  else m * Nat.pow 10 exponent < limit * Nat.pow 10 fractionDigits

/-- A number with a fraction or an exponent: `word` is what stands before a point, and `s` what
follows it.  Answers what follows the number. -/
def float? (word : List Char) (point : Bool) (s : List Char) : Option (List Char) := do
  let (whole, suffix) ← scanDigits 10 false true false false (splitSign word).2
  let (fraction, suffix, s) ←
    if point then do
      if !suffix.isEmpty then none
      else
        let (after, s) ← bare? s
        let (fraction, suffix) ← scanDigits 10 true true false false after
        some (fraction, suffix, s)
    else some ([], suffix, s)
  let digits := whole ++ fraction
  match suffix with
  | [] => if isFinite digits fraction.length false 0 then some s else none
  | [e] =>
      if e = 'e' || e = 'E' then do
        let s := match s with
          | '+' :: r => r
          | r => r
        let (w, s) ← bare? s
        let (exponent, rest) ← scanDigits 10 true true false false w
        if rest.isEmpty && isFinite digits fraction.length false (ofDigits 10 exponent) then some s
        else none
      else none
  | e :: more =>
      if e = 'e' || e = 'E' then do
        let (negative, ds) := splitSign more
        let (exponent, rest) ← scanDigits 10 true true false false ds
        if rest.isEmpty && isFinite digits fraction.length negative (ofDigits 10 exponent) then
          some s
        else none
      else none

/-- A number that begins with a word, and what follows it. -/
def number? (word s : List Char) : Option (Value × List Char) :=
  match word with
  | '0' :: 'x' :: ds => (integer? 16 false true ds).map (·, s)
  | '0' :: 'o' :: ds => (integer? 8 false true ds).map (·, s)
  | '0' :: 'b' :: ds => (integer? 2 false true ds).map (·, s)
  | _ =>
      if word.contains 'e' || word.contains 'E' then (float? word false s).map (.other, ·)
      else match s with
        | '.' :: r => (float? word true r).map (.other, ·)
        | _ =>
            if ["inf", "-inf", "nan", "-nan"].any (·.toList == word) then some (.other, s)
            else (integer? 10 true false word).map (·, s)

/-- What follows a bare word. -/
def afterBare? (s : List Char) : Option (List Char) := (bare? s).map Prod.snd

/-- What follows a character. -/
def after? (c : Char) : List Char → Option (List Char)
  | d :: s => if c = d then some s else none
  | [] => none

/-- What follows the rest of a date that began with a word: an hour after one blank, minutes and
seconds after colons, a fraction, and a difference of zones. -/
def date? (colon : Bool) (s : List Char) : Option (List Char) := do
  let s := match s with
    | ' ' :: r => (afterBare? r).getD s
    | _ => s
  let timed := if colon then some s else after? ':' s
  match timed with
  | none => some s
  | some s => do
      let s ← afterBare? s
      let s ← after? ':' s
      let s ← afterBare? s
      let s ← match after? '.' s with
        | some r => afterBare? r
        | none => some s
      let s ← match after? '+' s with
        | some r => afterBare? r
        | none => some s
      match after? ':' s with
      | some r => afterBare? r
      | none => some s

/-- A word that begins a date. -/
def looksLikeDate (word : List Char) : Bool :=
  word.contains 'T' || word.contains 't' ||
    ((word.drop 1).contains '-' && !(word.zip (word.drop 1)).any fun (a, b) =>
      (a == 'e' || a == 'E') && b == '-')

/-- A number or a date that begins with a word, and what follows it. -/
def numberOrDate? (word s : List Char) : Option (Value × List Char) :=
  if looksLikeDate word then (date? false s).map (.date, ·)
  else match s with
    | ':' :: r => (date? true r).map (.date, ·)
    | _ => number? word s

/-! ## Values -/

/-- The text from its first character that is no blank, line end or comment. -/
def skipLines : Nat → List Char → List Char
  | 0, s => s
  | fuel + 1, s =>
      match skip s with
      | '\n' :: r => skipLines fuel r
      | '#' :: r =>
          match endLine? ('#' :: r) with
          | some r => skipLines fuel r
          | none => '#' :: r
      | r => r

mutual

/-- A value that begins at the first character, and what follows. -/
def readValue : Nat → List Char → Option (Value × List Char)
  | 0, _ => none
  | _ + 1, [] => none
  | fuel + 1, c :: s =>
      if c = '"' || c = '\'' then
        (text? c (c :: s)).map fun (t, _, r) => (.text t, r)
      else if c = '[' then (readItems fuel s).map fun (vs, r) => (.list vs, r)
      else if c = '\x7b' then
        match skip s with
        | '\x7d' :: r => some (.table [], r)
        | r => (readPairs fuel [] r).map fun (es, r) => (.table es, r)
      else if c = '+' then (bare? s).bind fun (w, r) => number? w r
      else
        match bare? (c :: s) with
        | none => none
        | some (w, r) =>
            if w = "true".toList then some (.bool true, r)
            else if w = "false".toList then some (.bool false, r)
            else if w = "inf".toList || w = "nan".toList || c == '-' || ('0' ≤ c && c ≤ '9') then
              numberOrDate? w r
            else none

/-- The items of a list after its opening bracket or a comma, and what follows the list. -/
def readItems : Nat → List Char → Option (List Value × List Char)
  | 0, _ => none
  | fuel + 1, s =>
      match skipLines (s.length + 1) s with
      | ']' :: r => some ([], r)
      | r => do
          let (v, r) ← readValue fuel r
          match skipLines (r.length + 1) r with
          | ',' :: r => do
              let (vs, r) ← readItems fuel r
              return (v :: vs, r)
          | ']' :: r => return ([v], r)
          | _ => none

/-- The entries of a table in braces after `done`, from one whose key begins at the first character,
and what follows the table. -/
def readPairs : Nat → Entries → List Char → Option (Entries × List Char)
  | 0, _, _ => none
  | fuel + 1, done, s => do
      let (key, r) ← key? (s.length + 1) s
      let r ← after? '=' r
      let (v, r) ← readValue fuel (skip r)
      let es ← insert? key v done
      match skip r with
      | '\x7d' :: r => return (es, r)
      | ',' :: r => readPairs fuel es (skip r)
      | _ => none

end

/-! ## Documents -/

/-- The entries under one header. -/
structure Block where
  path : List String
  isArray : Bool
  entries : Entries

/-- A header after its first bracket, and what follows its line. -/
def header? (s : List Char) : Option (List String × Bool × List Char) := do
  let (isArray, s) := match s with
    | '[' :: r => (true, r)
    | r => (false, r)
  let (path, r) ← key? (s.length + 1) (skip s)
  let r ← after? ']' r
  let r ← if isArray then after? ']' r else some r
  let r ← endLine? r
  return (path, isArray, r)

/-- The blocks of the rest of a document, `current` being the one that its first lines belong to. -/
def readBlocks : Nat → Block → List Char → Option (List Block)
  | 0, _, _ => none
  | fuel + 1, current, s =>
      match skipLines (s.length + 1) s with
      | [] => some [current]
      | '[' :: r => do
          let (path, isArray, r) ← header? r
          let blocks ← readBlocks fuel ⟨path, isArray, []⟩ r
          return current :: blocks
      | r => do
          let (key, r) ← key? (r.length + 1) r
          let r ← after? '=' r
          let (v, r) ← readValue (2 * r.length + 2) (skip r)
          let r ← endLine? r
          let es ← insert? key v current.entries
          readBlocks fuel { current with entries := es } r

/-- A path that goes on from another. -/
def extends? (path start : List String) : Bool :=
  start.length < path.length && path.take start.length == start

/-- No header stands twice, counting anew inside every element of an array of tables; `tables` and
`arrays` are the headers before. -/
def headersAgree : List (List String) → List (List String) → List Block → Bool
  | _, _, [] => true
  | tables, arrays, b :: bs =>
      if b.isArray then
        let known := arrays.contains b.path
        let clash := tables.contains b.path ||
          (!known && (tables ++ arrays).any fun p => extends? p b.path)
        !clash &&
          headersAgree (tables.filter fun p => !extends? p b.path)
            (b.path :: arrays.filter fun p => !extends? p b.path) bs
      else if tables.contains b.path || arrays.contains b.path then false
      else headersAgree (b.path :: tables) arrays bs

/-- The last part of the only header of a document that says nothing else. -/
def soleHeader? : List Block → Option String
  | [root, b] => if root.entries.isEmpty && b.entries.isEmpty then b.path.getLast? else none
  | _ => none

/-- The entries of blocks whose paths are at most `depth` long. -/
def assemble (sole : Option String) : Nat → List Block → Entries
  | 0, blocks => blocks.flatMap Block.entries
  | depth + 1, blocks =>
      let own := (blocks.filter fun b => b.path.isEmpty).flatMap Block.entries
      let names := (blocks.filterMap fun b => b.path.head?).eraseDups
      own ++ names.map fun name =>
        let inner := (blocks.filter fun b => b.path.head? == some name).map fun b =>
          { b with path := b.path.drop 1 }
        let value := Value.spread sole (assemble sole depth inner)
        (name, if inner.any fun b => b.isArray && b.path.isEmpty then .list [value] else value)

/-- The entries of a document. -/
def read? (text : String) : Option Entries := do
  let s := foldLines text.toList
  let s := match s with
    | '\uFEFF' :: r => r
    | r => r
  let blocks ← readBlocks (s.length + 1) ⟨[], false, []⟩ s
  if headersAgree [] [] (blocks.drop 1) then
    let depth := blocks.foldl (fun n b => max n b.path.length) 0
    return assemble (soleHeader? blocks) depth blocks
  else none

/-! ## Writing -/

/-- A capital hex digit. -/
def hexDigit (n : Nat) : Char := if n < 10 then Char.ofNat (48 + n) else Char.ofNat (55 + n)

/-- One character of a quoted text. -/
def escape (c : Char) : List Char :=
  if c = '\x08' then ['\\', 'b']
  else if c = '\t' then ['\\', 't']
  else if c = '\n' then ['\\', 'n']
  else if c = '\x0c' then ['\\', 'f']
  else if c = '\r' then ['\\', 'r']
  else if c = '"' then ['\\', '"']
  else if c = '\\' then ['\\', '\\']
  else if c.toNat < 0x20 || c.toNat = 0x7F then
    ['\\', 'u', '0', '0', hexDigit (c.toNat / 16), hexDigit (c.toNat % 16)]
  else [c]

/-- A quoted text. -/
def quoted (s : String) : String := String.ofList (['"'] ++ s.toList.flatMap escape ++ ['"'])

/-- A line of a bare key and a value. -/
def line (key value : String) : String := key ++ " = " ++ value ++ "\n"

/-- The line that begins a table, with an empty line in front. -/
def header (name : String) : String := "\n[" ++ name ++ "]\n"

end MoveWallet.Document.Toml
