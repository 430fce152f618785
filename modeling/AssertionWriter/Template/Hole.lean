/-
  AssertionWriter.Template.Hole

  The holes that templates may have, and the token that marks each of them in the text of
  a template.
-/

namespace AssertionWriter.Template

/-- A place in a template that is filled in. -/
inductive Hole where
  /-- The name of a property. -/
  | property
  /-- The name of a property with its first character in upper case. -/
  | propertyCapital
  /-- The name of a parameter for the value of a property. -/
  | parameter
  | propertyType
  /-- The type of a property without arguments and packages. -/
  | propertySimpleType
  /-- The assertion class for the type of a property. -/
  | propertyAssertClass
  | elementType
  /-- The assertion class for the type of the elements. -/
  | elementAssertClass
  /-- The expression that reads a property. -/
  | reading
  /-- The clause with the checked exceptions of an accessor. -/
  | throws
  /-- The documentation of these exceptions. -/
  | throwsDoc
  | predicate
  | negation
  | predicateProse
  | negationProse
  | predicateDemand
  | negationDemand
  | package
  /-- The type that assertions are about. -/
  | subject
  /-- The class that the template defines or uses. -/
  | assertClass
  | superclass
  /-- The type of the assertion object that a method gives back. -/
  | selfType
  /-- The assertion object that a method gives back. -/
  | self
  | imports
  /-- The methods of an entry point. -/
  | entryPoints
  deriving DecidableEq, Repr

namespace Hole

/-- Every hole. -/
def all : List Hole := [
  property, propertyCapital, parameter, propertyType, propertySimpleType, propertyAssertClass,
  elementType, elementAssertClass, reading, throws, throwsDoc, predicate, negation,
  predicateProse, negationProse, predicateDemand, negationDemand, package, subject, assertClass,
  superclass, selfType, self, imports, entryPoints]

theorem mem_all (h : Hole) : h ∈ all := by cases h <;> decide

/-- The name of a hole in templates. -/
def name : Hole → String
  | property => "property"
  | propertyCapital => "Property"
  | parameter => "property_safe"
  | propertyType => "propertyType"
  | propertySimpleType => "propertySimpleType"
  | propertyAssertClass => "propertyAssertType"
  | elementType => "elementType"
  | elementAssertClass => "elementAssertType"
  | reading => "getter"
  | throws => "throws"
  | throwsDoc => "throws_javadoc"
  | predicate => "predicate"
  | negation => "neg_predicate"
  | predicateProse => "predicate_for_javadoc"
  | negationProse => "neg_predicate_for_javadoc"
  | predicateDemand => "predicate_for_error_message"
  | negationDemand => "neg_predicate_for_error_message"
  | package => "package"
  | subject => "class_to_assert"
  | assertClass => "custom_assertion_class"
  | superclass => "super_assertion_class"
  | selfType => "self_type"
  | self => "myself"
  | imports => "imports"
  | entryPoints => "all_assertions_entry_points"

/-- The mark of a hole: its name between braces, behind a dollar sign. -/
def token (h : Hole) : String := "$\x7b" ++ h.name ++ "\x7d"

/-- The hole that a token marks. -/
def ofToken? (token : String) : Option Hole := all.find? (·.token = token)

end Hole
end AssertionWriter.Template
