import Provisioning.Console.Arguments
import Provisioning.Console.Execution
import Provisioning.Console.FileTree

/-!
# Command lines over files in memory

What a command line does to a tree of files: the code that it exits with, what
it prints and the files that it leaves.
-/

namespace Provisioning.Console

/-- How a command line ended: the code it exits with, the text it printed and
the failure it reported. -/
structure Exit where
  code : Nat
  printed : String := ""
  failure : Option Failure := none
deriving DecidableEq, Repr

/-- Applies effects until one fails. -/
def applyEffects (files : FileTree) (printed : String) :
    List Effect → FileTree × String × Option Failure
  | [] => (files, printed, none)
  | .print text :: rest => applyEffects files (printed ++ text) rest
  | .write path text onFailure :: rest =>
    match files.save path text with
    | (files, none) => applyEffects files printed rest
    | (files, some fault) => (files, printed, some (onFailure (.io fault.message)))

/-- What the environment says. -/
structure Environment where
  home : Option String := none
  configFile : Option String := none
deriving DecidableEq, Repr

/-- Runs a command line. -/
def runLine (environment : Environment) (words : List String) (files : FileTree) :
    Exit × FileTree :=
  match Invocation.parse environment.configFile words with
  | .error ending => ({ code := ending.code, printed := ending.text environment.configFile }, files)
  | .ok invocation =>
    let outcome := invocation.outcome (invocation.places environment.home) files.content
    let (files, printed, failure) := applyEffects files "" outcome.effects
    match failure <|> outcome.failure with
    | none => ({ code := 0, printed := printed }, files)
    | some failure => ({ code := 1, printed := printed, failure := some failure }, files)

/-- Runs command lines one after another. -/
def runLines (environment : Environment) (files : FileTree) :
    List (List String) → List Exit × FileTree
  | [] => ([], files)
  | words :: rest =>
    let (exit, files) := runLine environment words files
    let (exits, files) := runLines environment files rest
    (exit :: exits, files)

end Provisioning.Console
