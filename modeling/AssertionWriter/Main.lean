/-
  AssertionWriter.Main

  The program on the disk. `FileAccess` is the disk itself here; all else is in
  `CommandLine.Program`.
-/
import AssertionWriter.CommandLine.Program

namespace AssertionWriter
open Files CommandLine

/-- The error of an operation on the disk. -/
def Files.FileError.ofSystem : IO.Error → FileError
  | .noFileOrDirectory .. => .notFound
  | .alreadyExists _ code _ => if code = 17 then .occupied else .other "File exists" code.toNat
  | .inappropriateType _ code text =>
    if code = 20 then .notDirectory
    else if code = 21 then .isDirectory
    else .other text code.toNat
  | .invalidArgument _ code text => if code = 36 then .nameTooLong else .other text code.toNat
  | .permissionDenied _ code _ => .other "Permission denied" code.toNat
  | e => .other (toString e) 0

/-- The type of what stands at a path. -/
def fileType? (path : String) : IO (Option IO.FS.FileType) := do
  match ← (System.mkFilePath [path]).metadata.toBaseIO with
  | .ok metadata => return some metadata.type
  | .error _ => return none

/-- An operation on the disk, with its error as a value. -/
def attempt {α : Type} (action : IO α) : IO (Except FileError α) := do
  match ← action.toBaseIO with
  | .ok a => return .ok a
  | .error e => return .error (.ofSystem e)

instance : FileAccess IO where
  isPresent path := return (← fileType? path).isSome
  isDirectory path := return (← fileType? path) == some .dir
  isFile path := return (← fileType? path) == some .file
  readText path := do
    match ← attempt (IO.FS.readBinFile path) with
    | .error e => return .error e
    | .ok bytes =>
      match String.fromUTF8? bytes with
      | some text => return .ok text
      | none => return .error .notText
  makeDirectory path := attempt (IO.FS.createDir path)
  writeText path text := attempt (IO.FS.writeFile path text)

/-- What the program says when it is not used properly. -/
def usage : String :=
  "\n\t".intercalate [
    "Usage: generate --catalog <FILE>",
    "[--type <NAME>]... [--output-dir <DIR>] [--package <NAME>]",
    "[--hierarchical] [--entry-point <MODE>]... [--templates <DIR>] [--marker <NAME>]",
    "[--include-non-public-fields]"]

/-- Reads the environment. -/
def readEnvironment : IO Environment := do
  return {
    outputDirectory := ← IO.getEnv "ASSERTGEN_OUTPUT_DIR"
    templates := ← IO.getEnv "ASSERTGEN_TEMPLATES" }

end AssertionWriter

open AssertionWriter CommandLine in
/-- The program. -/
def main (arguments : List String) : IO UInt32 := do
  match Command.parse (← readEnvironment) arguments with
  | .error stop =>
    match stop with
    | .help => IO.println usage
    | .misuse => IO.eprintln usage
    return stop.exitCode.toUInt32
  | .ok command =>
    let start ← IO.monoMsNow
    let outcome ← command.run
    match outcome with
    | .error failure => IO.eprintln (Failure.errorLine failure.message)
    | .ok report => IO.println (Json.pretty (report.toJson ((← IO.monoMsNow) - start)))
    return (exitCode outcome).toUInt32
