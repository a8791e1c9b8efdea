/-
# MoveWallet.Move.Identifier — names of modules, types and functions

An identifier begins with an ASCII letter or an underscore, goes on with letters, digits and
underscores, and is not the underscore alone.
-/
import MoveWallet.Account.Address

namespace MoveWallet.Move

set_option autoImplicit false

open MoveWallet.Account (AddressError)
open MoveWallet.Text.Quoted (quote)

/-! ## Faults of Move names and types -/

/-- What is wrong with the text of a type. -/
inductive TypeTagFault where
  | tooDeep
  | unknownType
  | unbalanced
  | badParameters
  | badPath
  deriving DecidableEq, Repr

/-- The wording of a fault. -/
def TypeTagFault.message : TypeTagFault → String
  | .tooDeep => "nesting too deep"
  | .unknownType => "unknown type"
  | .unbalanced => "unbalanced type parameters"
  | .badParameters => "malformed type parameters"
  | .badPath => "expected address::module::name"

/-- Why a text is no name or type. -/
inductive MoveError where
  | badIdentifier (text : String)
  | badTypeTag (text : String) (fault : TypeTagFault)
  | badModuleId (text : String)
  | badFunctionId (text : String)
  | address (e : AddressError)
  deriving DecidableEq, Repr

/-- The wording of a fault. -/
def MoveError.message : MoveError → String
  | .badIdentifier text => "invalid identifier " ++ quote text
  | .badTypeTag text fault => "invalid type tag " ++ quote text ++ ": " ++ fault.message
  | .badModuleId text => "invalid module id " ++ quote text
  | .badFunctionId text => "invalid function id " ++ quote text
  | .address e => "address: " ++ e.message

/-- The faults that a fault stems from, the nearest first. -/
def MoveError.causes : MoveError → List String
  | .address e => [e.message]
  | _ => []

/-- The address in a text. -/
def parseAddress (text : String) : Except MoveError Account.Address :=
  match Account.Address.parse text with
  | .ok a => .ok a
  | .error e => .error (.address e)

/-! ## Identifiers -/

/-- A character that may begin an identifier. -/
def isStart (c : Char) : Bool :=
  ('a' ≤ c && c ≤ 'z') || ('A' ≤ c && c ≤ 'Z') || c == '_'

/-- A character that may stand later in an identifier. -/
def isFollowing (c : Char) : Bool := isStart c || ('0' ≤ c && c ≤ '9')

/-- The characters of an identifier. -/
def isIdentifier : List Char → Bool
  | [] => false
  | c :: s => isStart c && s.all isFollowing && !(c == '_' && s.isEmpty)

/-- A name. -/
structure Identifier where
  text : String
  valid : isIdentifier text.toList = true
  deriving DecidableEq

namespace Identifier

/-- The identifier with a given text. -/
def ofText? (text : String) : Option Identifier :=
  if h : isIdentifier text.toList = true then some ⟨text, h⟩ else none

/-- The identifier with a given text, or a fault. -/
def parse (text : String) : Except MoveError Identifier :=
  match ofText? text with
  | some i => .ok i
  | none => .error (.badIdentifier text)

/-- The text after its length. -/
def codec : Wire.Codec Identifier :=
  Wire.Codec.text.refine (.malformedField "identifier") ofText? Identifier.text

/-- Identifiers in the order of their characters. -/
def compare (a b : Identifier) : Ordering := compareLex a.text.toList b.text.toList
where
  /-- Character by character; a beginning comes before the whole. -/
  compareLex : List Char → List Char → Ordering
    | [], [] => .eq
    | [], _ :: _ => .lt
    | _ :: _, [] => .gt
    | c :: s, d :: t => if c = d then compareLex s t else if c < d then .lt else .gt

end Identifier

end MoveWallet.Move
