/-
  AssertionWriter.Files.Access

  What generation asks of files: to look at paths, to read texts, to make directories and
  to write. It does so through `FileAccess`, so that it runs on a disk as well as on the
  file systems of `Files.FileSystem`. Also the paths of packages, and the making of a
  directory with all those it lies in.
-/
import AssertionWriter.Text.Basic

namespace AssertionWriter.Files

/-- Why something cannot be done with a file or directory. -/
inductive FileError where
  | notFound
  | occupied
  | notDirectory
  | isDirectory
  | nameTooLong
  /-- The content is no text in UTF-8. -/
  | notText
  /-- The path holds a character that no path can hold. -/
  | invalidPath
  /-- Another error of the system, with its number. -/
  | other (text : String) (code : Nat)
  deriving DecidableEq, Repr

/-- The wording of an error of the system. -/
def systemError (text : String) (code : Nat) : String :=
  text ++ " (os error " ++ toString code ++ ")"

/-- The wording of an error. -/
def FileError.message : FileError → String
  | notFound => systemError "No such file or directory" 2
  | occupied => systemError "File exists" 17
  | notDirectory => systemError "Not a directory" 20
  | isDirectory => systemError "Is a directory" 21
  | nameTooLong => systemError "File name too long" 36
  | notText => "stream did not contain valid UTF-8"
  | invalidPath => "file name contained an unexpected NUL byte"
  | other text code => systemError text code

/-- The operations on files that generation needs. -/
class FileAccess (m : Type → Type) where
  /-- Whether there is anything at a path. -/
  isPresent : String → m Bool
  /-- Whether there is a directory at a path. -/
  isDirectory : String → m Bool
  /-- Whether there is a file at a path. -/
  isFile : String → m Bool
  /-- The text of the file at a path. -/
  readText : String → m (Except FileError String)
  /-- Makes the directory at a path, in one that is there. -/
  makeDirectory : String → m (Except FileError Unit)
  /-- Writes a text to the file at a path. -/
  writeText : String → String → m (Except FileError Unit)

/-! ## Paths -/

/-- The path of `segment` in the directory `base`: a slash goes between the two, except behind
    another one or an empty path; an absolute `segment` is a path already. -/
def under (base segment : String) : String :=
  if segment.toList.head? = some '/' then segment
  else if base.isEmpty || base.toList.getLast? = some '/' then base ++ segment
  else base ++ "/" ++ segment

/-- The parts of a path between the slashes. -/
def parts (path : String) : List String := (Text.splitOn '/' path.toList).map String.ofList

/-- The paths of the directories that the directory at a path lies in, the nearest first. -/
def parents (path : String) : List String :=
  let names := (parts path).filter fun part => part ≠ "" && part ≠ "."
  let lead := if path.toList.head? = some '/' then "/" else ""
  let paths := (List.range names.length).reverse.map fun n =>
    lead ++ "/".intercalate (names.take n)
  paths.filter (!·.isEmpty)

/-- The directory of a package below `base`: one directory for each part between the dots. -/
def packageDirectory (base package : String) : String :=
  ((Text.splitOn '.' package.toList).filter (!·.isEmpty)).foldl
    (fun directory part => under directory (String.ofList part)) base

/-! ## Directories -/

section
variable {m : Type → Type} [Monad m] [FileAccess m]

/-- A directory that could not be made is no fault if it is there. -/
def orPresent (path : String) (e : FileError) : m (Except FileError Unit) := do
  return if ← FileAccess.isDirectory path then .ok () else .error e

/-- Makes the directory at the first path; if what it lies in is missing, makes that first, by way
    of the paths behind it. -/
def makeFirst : List String → m (Except FileError Unit)
  | [] => return .ok ()
  | path :: above => do
    match ← FileAccess.makeDirectory path with
    | .ok () => return .ok ()
    | .error .notFound =>
      match ← makeFirst above with
      | .error e => return .error e
      | .ok () =>
        -- What was missing is there now.
        match ← FileAccess.makeDirectory path with
        | .ok () => return .ok ()
        | .error e => orPresent path e
    | .error e => orPresent path e

/-- Makes the directory at a path, and those it lies in. The empty path stands for the working
    directory. -/
def makeDirectories (path : String) : m (Except FileError Unit) :=
  if path.isEmpty then return .ok () else makeFirst (path :: parents path)

end
end AssertionWriter.Files
