/-
  AssertionWriter.AssertionClass.Basic

  The sources of assertion classes. A class is the frame of its kind and the methods of the
  properties behind it; then the holes of the class are filled in the whole text, and at
  last the imports that the text turns out to need.
-/
import AssertionWriter.AssertionClass.PropertyMethods
import AssertionWriter.Imports
import AssertionWriter.Template.TemplateSet

namespace AssertionWriter
open Template

/-- The templates, and the package for all classes instead of those of their subjects. -/
structure ClassWriter where
  templates : TemplateSet
  package : Option String

/-- The sources of an abstract assertion class and the concrete one that extends it. -/
structure ClassPair where
  abstractSource : String
  concreteSource : String
  deriving DecidableEq, Repr

namespace ClassWriter

/-- The class that assertion classes extend. -/
def objectAssert : String := "AbstractObjectAssert"

/-- The class that assertion classes for values with a natural order extend. -/
def comparableAssert : String := "AbstractComparableAssert"

/-- The end of a class. -/
def classEnd : String := "\x7d\n"

/-- The template for a role; the error is the role if there is none. -/
def template (w : ClassWriter) (r : Role) : Except Role String :=
  match w.templates.find? r with
  | some body => .ok body
  | none => .error r

/-- The methods of a property. -/
def methods (w : ClassWriter) (s : Surface) (p : Property) : Except Role String := do
  let body ← w.template (p.role s)
  return (p.filling (s.targetPackage w.package)).fill body

/-- A frame with the superclass that suits the subject. -/
def adaptSuperclass (s : Surface) (frame : String) : String :=
  if s.isComparable then
    String.ofList (Text.replaceAll objectAssert.toList comparableAssert.toList frame.toList)
  else frame

/-- A frame without a package for code in the default package. -/
def adaptPackage (package frame : String) : String :=
  if package.isEmpty then withoutPackage frame else frame

/-- The frame of a class. -/
def frame (w : ClassWriter) (s : Surface) (r : Role) : Except Role String := do
  let body ← w.template r
  return adaptPackage (s.targetPackage w.package) (adaptSuperclass s body)

/-- A frame with the methods of some properties, and the end of the class. -/
def body (w : ClassWriter) (s : Surface) (r : Role) (properties : List Property) :
    Except Role String := do
  let frame ← w.frame s r
  let methods ← properties.mapM (w.methods s)
  return frame ++ String.join methods ++ classEnd

/-- Fills the holes of a class, and those for its imports. -/
def complete (w : ClassWriter) (s : Surface) (entries : List (Hole × String))
    (parentImport : Option String) (body : String) : String :=
  let package := s.targetPackage w.package
  let filling := Filling.ofList
    ((.package, package) :: (.subject, s.subject.outerQualified) :: entries)
  let text := filling.fill body
  -- The imports come last, since they depend on what the text mentions.
  let imports := (((Imports.empty package).addType s.subject).2.addHelpers text)
  let imports := parentImport.elim imports fun name => (imports.addName name).2
  (Filling.ofList [(.imports, imports.render)]).fill text

/-- The values for the holes of a class whose objects are made directly. -/
def concreteEntries (s : Surface) : List (Hole × String) :=
  [(.assertClass, s.assertClass), (.selfType, s.assertClass), (.self, "this")]

/-! ## Classes -/

/-- The source of a class with the methods of all properties. -/
def flat (w : ClassWriter) (s : Surface) : Except Role String := do
  let body ← w.body s .assertClass s.properties
  return w.complete s (concreteEntries s) none body

/-- The superclass of an abstract assertion class, and its qualified name if it has to be imported:
    the abstract assertion class of the parent, if that is generated in the same batch. -/
def superclass (w : ClassWriter) (s : Surface) (batch : List QualifiedName) :
    String × Option String :=
  match s.parent.filter fun parent => batch.any fun n => compare n parent = .eq with
  | some parent =>
    let name := Naming.abstractAssertClass parent
    (name, some (QualifiedName.qualify (w.package.getD parent.package) name))
  | none => (if s.isComparable then comparableAssert else objectAssert, none)

/-- The sources of an abstract class with the methods of the properties that the subject declares
    itself, and of a concrete class that extends it. -/
def hierarchical (w : ClassWriter) (s : Surface) (batch : List QualifiedName) :
    Except Role ClassPair := do
  -- The abstract class, with a self type for its subclasses.
  let (superclass, parentImport) := w.superclass s batch
  let body ← w.body s .abstractAssertClass s.declaredProperties
  let abstractSource := w.complete s [(.assertClass, s.abstractAssertClass),
    (.superclass, superclass), (.selfType, "S"), (.self, "myself")] parentImport body
  -- The concrete class, which only fixes the self type.
  let body ← w.body s .hierarchicalAssertClass []
  let concreteSource := w.complete s (concreteEntries s) none body
  return { abstractSource, concreteSource }

end ClassWriter
end AssertionWriter
