/-
  AssertionWriter.Catalog.Declaration

  What a catalog says about a type: its kind and visibility, its supertypes, its members
  and the markers on them.
-/
import AssertionWriter.JavaType.Basic

namespace AssertionWriter

/-- What sort of type a declaration introduces. -/
inductive DeclKind where
  | ordinary
  | interface
  | enumeration
  /-- A class without a name that code elsewhere could use. -/
  | anonymous
  /-- A class declared in the body of a method. -/
  | localClass
  deriving DecidableEq, Repr

/-- Whether code elsewhere can name a type of the kind. -/
def DeclKind.isNameable : DeclKind → Bool
  | ordinary | interface | enumeration => true
  | anonymous | localClass => false

/-- Who can see a type or a member. -/
inductive Visibility where
  | toAll
  | toSubclasses
  | toPackage
  | toClass
  deriving DecidableEq, Repr

/-- Whether everyone can see it. -/
def Visibility.isPublic (v : Visibility) : Bool := v = toAll

/-! ## Members -/

/-- A method of a type. -/
structure MethodDecl where
  name : String
  /-- The type of the value; `none` if the method gives none. -/
  returnType : Option JavaType
  parameters : List JavaType := []
  /-- The checked exceptions, in the order of the declaration. -/
  failures : List QualifiedName := []
  visibility : Visibility := .toAll
  isStatic : Bool := false
  /-- The names of the annotations on the method. -/
  markers : List String := []
  deriving DecidableEq, Repr

/-- A field of a type. -/
structure FieldDecl where
  name : String
  type : JavaType
  visibility : Visibility := .toAll
  isStatic : Bool := false
  deriving DecidableEq, Repr

namespace MethodDecl

/-- A public method without parameters that reads a value. -/
def reading (name : String) (type : JavaType) : MethodDecl := { name, returnType := some type }

/-- Whether the method bears a marker. -/
def hasMarker (m : MethodDecl) (marker : String) : Bool := m.markers.contains marker

/-- The method with one checked exception more. -/
def throwing (m : MethodDecl) (failure : QualifiedName) : MethodDecl :=
  { m with failures := m.failures ++ [failure] }

/-- The method with one parameter more. -/
def taking (m : MethodDecl) (type : JavaType) : MethodDecl :=
  { m with parameters := m.parameters ++ [type] }

/-- The method with one marker more. -/
def marked (m : MethodDecl) (marker : String) : MethodDecl :=
  { m with markers := m.markers ++ [marker] }

end MethodDecl

/-! ## Types -/

/-- The declaration of a type. -/
structure TypeDecl where
  name : QualifiedName
  kind : DeclKind := .ordinary
  visibility : Visibility := .toAll
  /-- The names of the type parameters, in the order of the declaration. -/
  typeParameters : List String := []
  /-- The class this one extends; `none` for interfaces and for classes at the root. -/
  superclass : Option JavaType := none
  interfaces : List JavaType := []
  methods : List MethodDecl := []
  fields : List FieldDecl := []
  /-- The names of the annotations on the type. -/
  markers : List String := []
  deriving DecidableEq, Repr

namespace TypeDecl

/-- The types that the declaration extends or implements, the superclass first. -/
def directSupertypes (d : TypeDecl) : List JavaType := d.superclass.toList ++ d.interfaces

/-- The name of the class that the declaration extends. -/
def superclassName? (d : TypeDecl) : Option QualifiedName := d.superclass.bind JavaType.name?

/-- Whether the type bears a marker. -/
def hasMarker (d : TypeDecl) (marker : String) : Bool := d.markers.contains marker

/-- Whether assertion classes can be generated for the type: it must be public and have a name. -/
def isEligible (d : TypeDecl) : Bool := d.kind.isNameable && d.visibility.isPublic

/-- The declaration with a superclass. -/
def extending (d : TypeDecl) (t : JavaType) : TypeDecl := { d with superclass := some t }

/-- The declaration with one interface more. -/
def implementing (d : TypeDecl) (t : JavaType) : TypeDecl :=
  { d with interfaces := d.interfaces ++ [t] }

/-- The declaration with one marker more. -/
def marked (d : TypeDecl) (marker : String) : TypeDecl :=
  { d with markers := d.markers ++ [marker] }

/-- The declaration with one method more. -/
def withMethod (d : TypeDecl) (m : MethodDecl) : TypeDecl := { d with methods := d.methods ++ [m] }

/-- The declaration with one field more. -/
def withField (d : TypeDecl) (f : FieldDecl) : TypeDecl := { d with fields := d.fields ++ [f] }

end TypeDecl
end AssertionWriter
