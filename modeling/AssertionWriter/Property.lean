/-
  AssertionWriter.Property

  A property of a type: a value that an accessor or a field gives, and what assertions
  need to know about it.
-/
import AssertionWriter.ValueKind

namespace AssertionWriter

/-- Where the value of a property comes from. -/
inductive Origin where
  /-- A method without parameters, with its checked exceptions. -/
  | accessor (failures : List QualifiedName)
  | field (visibility : Visibility)
  deriving DecidableEq, Repr

/-- A property of a type. -/
structure Property where
  name : String
  /-- The name of the accessor or field. -/
  member : String
  type : JavaType
  kind : ValueKind
  origin : Origin
  deriving DecidableEq, Repr

namespace Property

/-- Whether a method gives the value. -/
def isAccessor (p : Property) : Bool :=
  match p.origin with
  | .accessor _ => true
  | .field _ => false

/-- Whether a field gives the value. -/
def isField (p : Property) : Bool := !p.isAccessor

/-- The checked exceptions of the accessor; a field has none. -/
def failures (p : Property) : List QualifiedName :=
  match p.origin with
  | .accessor failures => failures
  | .field _ => []

/-- Whether generated code cannot read the value directly. -/
def isHiddenField (p : Property) : Bool :=
  match p.origin with
  | .accessor _ => false
  | .field visibility => !visibility.isPublic

/-- The name of the assertion that a predicate holds. -/
def predicate (p : Property) : String := Naming.predicateOf p.member

/-- The name of the assertion that a predicate does not hold. -/
def negation (p : Property) : String := Naming.contrary p.predicate

end Property
end AssertionWriter
