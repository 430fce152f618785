/-
  AssertionWriter.CommandLine.Program

  The program itself: it reads a catalog, generates, and ends with a report or with an
  error and an exit code.
-/
import AssertionWriter.Catalog.Document
import AssertionWriter.CommandLine.Arguments
import AssertionWriter.Generation.Run

namespace AssertionWriter.CommandLine
open Files

/-- Why the program fails. -/
inductive Failure where
  | unreadableCatalog (path : String) (cause : FileError)
  | malformedCatalog (cause : Json.Fault)
  | generation (cause : GenerationError)
  deriving DecidableEq, Repr

namespace Failure

/-- What is wrong with a catalog. -/
def faultMessage : Json.Fault → String
  | .malformed => "no JSON text"
  | .mismatch problem => problem.message

/-- The beginning of the line about a malformed catalog. -/
def malformedMessage : String := "malformed type catalog"

/-- The wording of a failure. -/
def message : Failure → String
  | unreadableCatalog path cause =>
    "failed to read catalog '" ++ path ++ "': " ++ cause.message
  | malformedCatalog cause => malformedMessage ++ ": " ++ faultMessage cause
  | generation cause => cause.message

/-- The line that the program ends with. -/
def errorLine (text : String) : String := "Error: " ++ text

/-- The exit code: 3 for the files, 2 for what was asked for, 1 for anything else. -/
def exitCode : Failure → Nat
  | unreadableCatalog _ _ => 3
  | malformedCatalog _ => 2
  | generation cause =>
    if cause.isOfFiles then 3
    else
      match cause with
      | .catalog _ | .template (.unknownRole _) => 2
      | .template _ => 3
      | _ => 1

end Failure

/-- Runs the program. -/
def Command.run {m : Type → Type} [Monad m] [FileAccess m] (command : Command) :
    m (Except Failure GenerationReport) := do
  match ← FileAccess.readText command.catalog with
  | .error e => return .error (.unreadableCatalog command.catalog e)
  | .ok text =>
    match Catalog.parse text with
    | .error fault => return .error (.malformedCatalog fault)
    | .ok catalog => return (← command.options.run catalog).mapError .generation

/-- The exit code of the program: 0 if there is a report. -/
def exitCode : Except Failure GenerationReport → Nat
  | .ok _ => 0
  | .error failure => failure.exitCode

end AssertionWriter.CommandLine
