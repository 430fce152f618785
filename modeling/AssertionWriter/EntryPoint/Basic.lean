/-
  AssertionWriter.EntryPoint.Basic

  The sources of entry points: one method for each subject, in the order of their
  qualified names, in the class of the mode. Also the package and the file of an entry
  point.
-/
import AssertionWriter.AssertionClass.Basic
import AssertionWriter.EntryPoint.Mode
import AssertionWriter.Repeats

namespace AssertionWriter.EntryPoint
open Template Text

/-! ## The package -/

/-- Whether a package goes before another one: it is shorter, in bytes, or as long and lower. -/
def precedes (a b : String) : Bool :=
  a.utf8ByteSize < b.utf8ByteSize || a.utf8ByteSize = b.utf8ByteSize && a < b

/-- The package of an entry point for some subjects: of their packages the one that goes before all
    others. -/
def commonPackage (surfaces : List Surface) : String :=
  match surfaces.map Surface.package with
  | [] => ""
  | p :: ps => ps.foldl (fun best p => if precedes p best then p else best) p

/-! ## The source -/

/-- The surfaces in ascending order of their qualified names, and of neighbours with one subject
    the first. -/
def inOrder (surfaces : List Surface) : List Surface :=
  dropRepeats (·.subject)
    (surfaces.mergeSort fun a b => (compare a.subject.qualified b.subject.qualified).isLE)

/-- The method for a subject. -/
def method (template : String) (package : Option String) (s : Surface) : String :=
  (Filling.ofList [(.assertClass, s.qualifiedAssertClass package),
    (.subject, s.subject.qualified)]).fill template

/-- The source of an entry point. A package that is given is that of the entry point and of all
    assertion classes. Without subjects there is no source. -/
def source (w : ClassWriter) (surfaces : List Surface) (mode : EntryPointMode) :
    Except Role String :=
  if surfaces.isEmpty then .ok ""
  else do
    let classTemplate ← w.template mode.classRole
    let methodTemplate ← w.template mode.methodRole
    let methods := String.join ((inOrder surfaces).map (method methodTemplate w.package))
    let package := w.package.getD (commonPackage surfaces)
    return (Filling.ofList [(.package, package), (.entryPoints, methods)]).fill
      (ClassWriter.adaptPackage package classTemplate)

/-! ## The file -/

/-- The name of the class that a line declares. -/
def declaredClass? (line : List Char) : Option String :=
  (after? "public class ".toList (trimStart line)).bind fun rest =>
    match (trimStart rest).takeWhile QualifiedName.isNameChar with
    | [] => none
    | name => some (String.ofList name)

/-- The file for a source: that of the first public class it declares, or else that of the mode. -/
def fileName (source : String) (mode : EntryPointMode) : String :=
  match (linesWithEnds source.toList).findSome? declaredClass? with
  | some name => name ++ Naming.fileEnding
  | none => mode.defaultFile

end AssertionWriter.EntryPoint
