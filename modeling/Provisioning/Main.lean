import Provisioning.Console.Arguments
import Provisioning.Console.Execution
import Provisioning.Console.FileTree

/-!
# The program

The command line over the real world.  What a command does is decided by
`Invocation.outcome`; here its files are read, the time it takes is waited for
and its effects are carried out.
-/

namespace Provisioning.Console

/-- The fault that the system reports, if it is one of those of a path. -/
def faultOf? : IO.Error → Option FileFault
  | .noFileOrDirectory _ code _ | .alreadyExists _ code _ | .inappropriateType _ code _
  | .invalidArgument _ code _ => FileFault.ofCode? code.toNat
  | _ => none

/-- The text of what the system reports. -/
def textOf (cause : IO.Error) : String :=
  ((faultOf? cause).map FileFault.message).getD (toString cause)

/-- What a file holds.  A path that leads nowhere has no file. -/
def readFile (path : String) : IO FileContent := do
  try
    return .ofBytes (← IO.FS.readBinFile path)
  catch cause =>
    match faultOf? cause with
    | some .missing | some .notDirectory | some .nameTooLong => return .missing
    | _ => return .unreadable (textOf cause)

/-- Writes a file, with the directories above it. -/
def writeFile (path content : String) : IO Unit := do
  match (Place.ancestors path).head? with
  | some directory => if !directory.isEmpty then IO.FS.createDirAll directory
  | none => return ()
  IO.FS.writeFile path content

/-- Waits. -/
def waitMs (ms : Nat) : IO Unit := do
  for _ in [0:ms / 1000] do
    IO.sleep 1000
  IO.sleep (ms % 1000).toUInt32

/-- Carries out effects until one fails. -/
def perform : List Effect → IO (Option Failure)
  | [] => return none
  | .print text :: rest => do
    IO.print text
    perform rest
  | .write path content onFailure :: rest => do
    match ← (writeFile path content).toBaseIO with
    | .ok () => perform rest
    | .error cause => return some (onFailure (.io (textOf cause)))

/-- Carries out an invocation; the code to exit with. -/
def carryOut (invocation : Invocation) (home : Option String) : IO UInt32 := do
  let places := invocation.places home
  let inputs ← (invocation.inputs places).mapM fun path => return (path, ← readFile path)
  let outcome := invocation.outcome places fun path => (inputs.lookup path).getD .missing
  for notice in outcome.notices do
    IO.eprintln notice.line
  waitMs outcome.elapsedMs
  match (← perform outcome.effects) <|> outcome.failure with
  | none => return 0
  | some failure =>
    IO.eprintln failure.report
    return 1

/-- Runs a command line; the code to exit with. -/
def run (words : List String) : IO UInt32 := do
  let named ← IO.getEnv configVariable
  match Invocation.parse named words with
  | .ok invocation => carryOut invocation (← IO.getEnv "HOME")
  | .error ending =>
    IO.print (ending.text named)
    if ending == .usage then
      IO.eprintln "error: the command line cannot be understood\n\nFor more information, try '--help'."
    return ending.code.toUInt32

end Provisioning.Console

/-- The program. -/
def main (words : List String) : IO UInt32 :=
  Provisioning.Console.run words
