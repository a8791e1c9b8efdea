/-
# MoveWallet.Config.Logging — how a program logs

Directives filter what is logged.  Logging is set up once; the directives are checked before that is
noticed.
-/
import MoveWallet.Config.Directive

namespace MoveWallet.Config

set_option autoImplicit false

open MoveWallet.Config.Directive (isDirective)

/-- Why logging was not set up. -/
inductive LoggingError where
  | badDirective (text : String)
  | alreadySet
  deriving DecidableEq, Repr

/-- The wording of a fault. -/
def LoggingError.message : LoggingError → String
  | .badDirective text => "invalid filter directive '" ++ text ++ "'"
  | .alreadySet =>
      "global subscriber already installed: a global default trace dispatcher has already been set"

/-- How a program logs. -/
structure Logging where
  service : String := "(rooch-service)"
  json : Bool := false
  toStderr : Bool := false
  directives : List String := []
  deriving DecidableEq

namespace Logging

/-- Refuses the first directive that is none. -/
def check (l : Logging) : Except LoggingError Unit :=
  match l.directives.find? fun d => !isDirective d with
  | some d => .error (.badDirective d)
  | none => .ok ()

/-- Sets logging up; `isSet` tells whether that was done before. -/
def install (l : Logging) (isSet : Bool) : Except LoggingError Unit := do
  l.check
  if isSet then throw .alreadySet

end Logging

end MoveWallet.Config
