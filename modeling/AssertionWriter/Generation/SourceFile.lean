/-
  AssertionWriter.Generation.SourceFile

  Source files with the places they are written to: those of a type, those of an entry
  point, and the writing of several one after the other. What needs a template that is
  missing is not written at all.
-/
import AssertionWriter.EntryPoint.Basic
import AssertionWriter.Generation.Error

namespace AssertionWriter
open Files Template

/-- A source file that is to be written. -/
structure SourceFile where
  directory : String
  name : String
  content : String
  deriving DecidableEq, Repr

/-- The path of the file. -/
def SourceFile.path (f : SourceFile) : String := under f.directory f.name

/-- How classes are written, and the directory that their packages lie in. -/
structure SourceWriter extends ClassWriter where
  base : String

namespace SourceWriter

/-- The directory of the classes for a subject. -/
def directory (w : SourceWriter) (s : Surface) : String :=
  packageDirectory w.base (s.targetPackage w.package)

/-- The file of the assertion class that holds all methods. -/
def flatFile (w : SourceWriter) (s : Surface) : Except Role SourceFile := do
  return ⟨w.directory s, s.assertFile, ← w.flat s⟩

/-- The files of the abstract assertion class and of the concrete one. -/
def hierarchicalFiles (w : SourceWriter) (s : Surface) (batch : List QualifiedName) :
    Except Role (List SourceFile) := do
  let pair ← w.hierarchical s batch
  return [
    ⟨w.directory s, s.abstractAssertFile, pair.abstractSource⟩,
    ⟨w.directory s, s.assertFile, pair.concreteSource⟩]

/-- The file of an entry point; none if it has no source. -/
def entryPointFile? (w : SourceWriter) (surfaces : List Surface) (mode : EntryPointMode) :
    Except Role (Option SourceFile) := do
  let source ← EntryPoint.source w.toClassWriter surfaces mode
  if source.isEmpty then return none
  let package := w.package.getD (EntryPoint.commonPackage surfaces)
  return some ⟨packageDirectory w.base package, EntryPoint.fileName source mode, source⟩

end SourceWriter

/-! ## Writing -/

section
variable {m : Type → Type} [Monad m] [FileAccess m]

/-- Writes a file, in a directory that is made if it is missing. Gives the path. -/
def SourceFile.write (f : SourceFile) : m (Except GenerationError String) := do
  match ← makeDirectories f.directory with
  | .error e => return .error (.write f.directory e)
  | .ok () =>
    match ← FileAccess.writeText f.path f.content with
    | .error e => return .error (.write f.path e)
    | .ok () => return .ok f.path

/-- Writes files one after the other, up to the first that cannot be written. Gives the paths. -/
def SourceFile.writeAll : List SourceFile → m (Except GenerationError (List String))
  | [] => return .ok []
  | f :: fs => do
    match ← f.write with
    | .error e => return .error e
    | .ok path => return (← writeAll fs).map (path :: ·)

namespace SourceWriter

/-- Writes what is made from templates, if none of those that are needed is missing. -/
def writing {α β : Type} (made : Except Role α) (write : α → m (Except GenerationError β)) :
    m (Except GenerationError β) :=
  match made with
  | .error r => return .error (.missingTemplate r)
  | .ok a => write a

/-- Writes the assertion class that holds all methods. Gives its path. -/
def writeFlat (w : SourceWriter) (s : Surface) : m (Except GenerationError String) :=
  writing (w.flatFile s) SourceFile.write

/-- Writes the abstract assertion class and the concrete one. Gives their paths. -/
def writeHierarchical (w : SourceWriter) (s : Surface) (batch : List QualifiedName) :
    m (Except GenerationError (List String)) :=
  writing (w.hierarchicalFiles s batch) SourceFile.writeAll

/-- Writes an entry point, unless it has no source. Gives its path. -/
def writeEntryPoint (w : SourceWriter) (surfaces : List Surface) (mode : EntryPointMode) :
    m (Except GenerationError (Option String)) :=
  writing (w.entryPointFile? surfaces mode) fun
    | none => return .ok none
    | some f => return (← f.write).map some

end SourceWriter
end
end AssertionWriter
