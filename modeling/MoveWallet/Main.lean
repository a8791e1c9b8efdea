/-
# MoveWallet.Main — the program

Reads the files that an invocation names, runs it, and prints what it printed or why it failed.
-/
import MoveWallet.Command.Run

namespace MoveWallet.Main

set_option autoImplicit false

open MoveWallet.Bytes.Fixed
open MoveWallet.Command

/-- Why a file could not be read, in the words of the system. -/
def fileFault : IO.Error → String
  | .noFileOrDirectory _ code details => s!"{details} (os error {code})"
  | .permissionDenied _ code details => s!"{details} (os error {code})"
  | .inappropriateType _ code details => s!"{details} (os error {code})"
  | .invalidArgument _ code details => s!"{details} (os error {code})"
  | e => toString e

/-- The text of a file, or why it cannot be read. -/
def fileText (path : String) : IO (Except String String) := do
  try
    let text ← IO.FS.readFile path
    return .ok text
  catch e => return .error (fileFault e)

/-- Runs the program with arguments; the answer is its exit code. -/
def runProgram (args : List String) : IO UInt32 := do
  let paths := match Invocation.parse? args with
    | some i => i.paths
    | none => []
  let files ← paths.mapM fun path => do
    let text ← fileText path
    return (path, text)
  let file := fun path => (files.lookup path).getD (.error "file was not read")
  let secret ← IO.getEnv secretVariable
  let random ← IO.getRandomBytes 32
  match FixedBytes.ofList? 32 random.toList with
  | none => throw (IO.userError "no random bytes")
  | some entropy =>
      match run ⟨file, secret, entropy⟩ args with
      | .printed text =>
          IO.print text
          return 0
      | .failed fault =>
          IO.eprintln ("ERROR\n" ++ fault.report)
          return 1
      | .misused =>
          IO.eprintln ("Usage: " ++ usage)
          return 1

end MoveWallet.Main

/-- The program. -/
def main (args : List String) : IO UInt32 := MoveWallet.Main.runProgram args
