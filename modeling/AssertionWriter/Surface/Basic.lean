/-
  AssertionWriter.Surface.Basic

  The surface of a type: the properties that assertions about its values can name, those
  it declares itself and all that it has, with the names of its assertion classes.
-/
import AssertionWriter.Naming.Companion
import AssertionWriter.NameMap
import AssertionWriter.Property

namespace AssertionWriter

/-- What can be asserted about the values of a type. -/
structure Surface where
  subject : QualifiedName
  kind : DeclKind
  /-- The kind of the values of the type themselves. -/
  subjectKind : ValueKind
  /-- The class that the type extends, unless every class extends it. -/
  parent : Option QualifiedName
  /-- Whether the values have a natural order. -/
  isComparable : Bool
  /-- The accessors by the names of their properties, inherited ones too. -/
  accessors : NameMap Property
  /-- The fields by their names, inherited ones too. -/
  fields : NameMap Property
  /-- The accessors that the type declares itself. -/
  declaredAccessors : NameMap Property
  /-- The fields that the type declares itself. -/
  declaredFields : NameMap Property

namespace Surface

/-- The surface of a plain class without members. -/
def bare (subject : QualifiedName) : Surface where
  subject
  kind := .ordinary
  subjectKind := .plain
  parent := none
  isComparable := false
  accessors := .empty
  fields := .empty
  declaredAccessors := .empty
  declaredFields := .empty

instance : Inhabited Surface := ⟨bare .object⟩

/-- The order of surfaces is that of their subjects. -/
instance : Ord Surface := ⟨fun a b => compare a.subject b.subject⟩

/-- Two surfaces are taken for the same if they have the same subject. -/
instance : BEq Surface := ⟨fun a b => a.subject == b.subject⟩

/-! ## Names -/

/-- The package of the subject. -/
def package (s : Surface) : String := s.subject.package

/-- The name of the assertion class. -/
def assertClass (s : Surface) : String := Naming.assertClass s.subject

/-- The name of the abstract assertion class. -/
def abstractAssertClass (s : Surface) : String := Naming.abstractAssertClass s.subject

/-- The file of the assertion class. -/
def assertFile (s : Surface) : String := s.assertClass ++ Naming.fileEnding

/-- The file of the abstract assertion class. -/
def abstractAssertFile (s : Surface) : String := s.abstractAssertClass ++ Naming.fileEnding

/-- The package that generated classes are placed in: the one that is asked for, or else that of
    the subject. -/
def targetPackage (s : Surface) (package : Option String) : String := package.getD s.package

/-- The qualified name of the assertion class. -/
def qualifiedAssertClass (s : Surface) (package : Option String) : String :=
  QualifiedName.qualify (s.targetPackage package) s.assertClass

/-! ## Properties -/

/-- Whether there is an accessor of the property. -/
def hasAccessor (s : Surface) (property : String) : Bool := s.accessors.contains property

/-- Whether the type itself declares an accessor of the property. -/
def declaresAccessor (s : Surface) (property : String) : Bool :=
  s.declaredAccessors.contains property

/-- Whether there is an accessor with the name as its own. -/
def hasAccessorMember (s : Surface) (member : String) : Bool :=
  s.accessors.values.any (·.member = member)

/-- The accessors in order, and then those of the fields that are named like no accessor. -/
def inOrder (s : Surface) (accessors fields : NameMap Property) : List Property :=
  accessors.values ++ fields.values.filter fun f => !s.hasAccessor f.name

/-- The properties that the type declares itself. -/
def declaredProperties (s : Surface) : List Property :=
  s.inOrder s.declaredAccessors s.declaredFields

/-- All properties. -/
def properties (s : Surface) : List Property := s.inOrder s.accessors s.fields

end Surface
end AssertionWriter
