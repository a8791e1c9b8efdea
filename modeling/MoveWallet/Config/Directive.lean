/-
# MoveWallet.Config.Directive — texts that filter what is logged

A directive is a level, or a target, or a span in brackets with the fields it must have; a target or
a span may have a level behind an equals sign.  One comma may end it.  `State.step` goes through the
text without the blanks round it, and `Part` is a stretch of the whole text that has to be a level
or a field.
-/
import MoveWallet.Bech32
import MoveWallet.Config.Pattern
import MoveWallet.Text.Blank
import MoveWallet.Text.Numeral
import MoveWallet.Text.Separator
import MoveWallet.Text.Utf8

namespace MoveWallet.Config.Directive

set_option autoImplicit false

open MoveWallet.Bech32 (lower)
open MoveWallet.Text
open MoveWallet.Text.Alphanumeric (isAlphanumeric)
open MoveWallet.Text.Numeral (digitValue?)
open MoveWallet.Text.Separator (splitChar)

/-! ## Levels and fields -/

/-- The levels, the quietest first. -/
def levels : List String := ["off", "error", "warn", "info", "debug", "trace"]

/-- A level by its name in any case, or by its number. -/
def isLevel (text : String) : Bool :=
  levels.any (fun l => l.toList == text.toList.map lower) ||
    (Numeral.readBelow levels.length text).toBool

/-- A decimal number, perhaps with a point and an exponent. -/
def isDecimal (s : List Char) : Bool :=
  let digits := fun (r : List Char) => r.takeWhile fun c => (digitValue? c).isSome
  let whole := digits s
  let (fraction, r) := match s.drop whole.length with
    | '.' :: r => (digits r, r.drop (digits r).length)
    | r => ([], r)
  !(whole.isEmpty && fraction.isEmpty) &&
    match r with
    | [] => true
    | e :: r =>
        let exponent := match r with
          | '+' :: r => r
          | '-' :: r => r
          | r => r
        (e == 'e' || e == 'E') && !exponent.isEmpty && digits exponent == exponent

/-- A number behind a plus sign, which is none of a pattern's marks then. -/
def isPositive : List Char → Bool
  | '+' :: r =>
      isDecimal r || ["inf", "infinity", "nan"].any fun w => w.toList == r.map lower
  | _ => false

/-- A field: a name and perhaps, behind an equals sign, a number or a pattern that its value is
compared with. -/
def isField (text : String) : Bool :=
  match splitChar '=' text.toList with
  | _ :: value :: _ => isPositive value || Pattern.isPattern value
  | _ => !text.isEmpty

/-! ## Going through a text -/

/-- What has to be right about the bytes from `start` to `stop` of a text. -/
inductive Part where
  | level (start stop : Nat)
  | field (start stop : Nat)

/-- The text from one byte to another. -/
def cut? (whole : String) (start stop : Nat) : Option String :=
  Utf8.decode (((Utf8.bytes whole).drop start).take (stop - start))

/-- A part is right.  No level at all stands for the loudest. -/
def Part.isRight (whole : String) : Part → Bool
  | level start stop => (cut? whole start stop).any fun s => s.isEmpty || isLevel s
  | field start stop => (cut? whole start stop).any isField

/-- Where in a directive one is, and at which byte a level or a field began. -/
inductive State where
  | start
  | name
  | span
  | field (begun : Nat)
  | fieldsEnd
  | spanEnd
  | level (begun : Nat)
  | ended

namespace State

/-- A character that a level or a target may begin with. -/
def beginsName (c : Char) : Bool := c == '-' || c == ':' || c == '_' || isAlphanumeric c

/-- Goes past the character at byte `i`; answers the part that it ends, if it ends one. -/
def step (s : State) (i : Nat) (c : Char) : Option (State × Option Part) :=
  match s, c with
  | start, '[' => some (span, none)
  | start, c => if beginsName c then some (name, none) else none
  | name, '=' => some (level (i + 1), none)
  | name, '[' => some (span, none)
  | name, ',' => some (ended, none)
  | name, _ => some (name, none)
  | span, ']' => some (spanEnd, none)
  | span, '\x7b' => some (field (i + 1), none)
  | span, _ => some (span, none)
  | field begun, '\x7d' => some (fieldsEnd, some (.field begun i))
  | field begun, ',' => some (field (i + 1), some (.field begun i))
  | field begun, _ => some (field begun, none)
  | fieldsEnd, ']' => some (spanEnd, none)
  | fieldsEnd, _ => none
  | spanEnd, '=' => some (level (i + 1), none)
  | spanEnd, _ => none
  | level begun, ',' => some (ended, some (.level begun i))
  | level begun, _ => some (level begun, none)
  | ended, _ => none

/-- The last part of a text of `length` bytes that ends here, if it may end here. -/
def finish (length : Nat) : State → Option (List Part)
  | name => some []
  | spanEnd => some []
  | ended => some []
  | level begun => some [.level begun length]
  | _ => none

end State

/-- The parts of a text of `length` bytes from byte `i` on, where its rest begins. -/
def parts? (length : Nat) : State → Nat → List Char → Option (List Part)
  | s, _, [] => s.finish length
  | s, i, c :: rest => do
      let (s, part) ← s.step i c
      let parts ← parts? length s (i + c.utf8Size) rest
      return part.toList ++ parts

/-- A directive.  Its bytes are counted from the first character that is no blank, and its parts are
cut from the whole text, so blanks in front leave no level behind an equals sign. -/
def isDirective (text : String) : Bool :=
  (parts? (Utf8.byteLength text) .start 0 (Blank.trim text.toList)).any fun parts =>
    parts.all (·.isRight text)

end MoveWallet.Config.Directive
