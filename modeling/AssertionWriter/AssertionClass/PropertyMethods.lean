/-
  AssertionWriter.AssertionClass.PropertyMethods

  The assertion methods for one property: which template they come from, how they read the
  value, and what fills the holes of the template.
-/
import AssertionWriter.JavaType.Rendering
import AssertionWriter.Surface.Basic
import AssertionWriter.Template.Filling
import AssertionWriter.Template.Role

namespace AssertionWriter.Property
open Template

/-! ## The template -/

/-- Whether another predicate of the surface stands for the contrary of `p`. -/
def hasOpposite (p : Property) (s : Surface) : Bool :=
  s.properties.any fun q =>
    q.kind.isPredicate && q.member ≠ p.member &&
      (q.member = p.negation || q.predicate = p.negation)

/-- The role of the template for `p`. A predicate whose contrary is a predicate itself gets no
    method for the contrary. -/
def role (p : Property) (s : Surface) : Role :=
  match p.kind with
  | .predicate boxed =>
    match boxed, p.hasOpposite s with
    | false, false => .is
    | false, true => .isWithoutNegation
    | true, false => .isWrapper
    | true, true => .isWrapperWithoutNegation
  | .realNumber false => .hasForRealNumber
  | .realNumber true => .hasForRealNumberWrapper
  | .wholeNumber false => .hasForWholeNumber
  | .wholeNumber true => .hasForWholeNumberWrapper
  | .character false => .hasForChar
  | .character true => .hasForCharacter
  | .array _ => .hasForArray
  | .enumerable _ => .hasForIterable
  | .plain => .has

/-! ## Values for the holes -/

/-- The class literal for values of a type, of the wrapper if it is a primitive. -/
def classLiteral (type : JavaType) (package : String) : String :=
  match type with
  | .named n _ =>
    if n.isPrimitive then n.boxed.referenceFrom package else type.rawReference package
  | _ => type.rawReference package

/-- The expression that reads the value, in code placed in `package`. -/
def reading (p : Property) (package : String) : String :=
  match p.origin with
  | .accessor _ => "actual." ++ p.member ++ "()"
  | .field visibility =>
    if visibility.isPublic then "actual." ++ p.member
    else
      "FieldSupport.EXTRACTION.fieldValue(\"" ++ p.member ++ "\", " ++
        classLiteral p.type package ++ ".class, actual)"

/-- The clause with the checked exceptions. -/
def throwsClause (p : Property) (package : String) : String :=
  match p.failures with
  | [] => ""
  | failures => " throws " ++ ", ".intercalate (failures.map (·.referenceFrom package))

/-- The documentation of the checked exceptions. -/
def throwsDoc (p : Property) (package : String) : String :=
  String.join (p.failures.map fun failure =>
    "\n   * @throws " ++ failure.referenceFrom package ++ " if " ++ p.reading package ++
      " throws one.")

/-- The values that depend on the kind of the value. -/
def kindEntries (p : Property) (package : String) : List (Hole × String) :=
  match p.kind with
  | .array element | .enumerable element => [
      (.elementType, element.reference package),
      (.elementAssertClass, Naming.valueAssertClass element.simpleName)]
  | .predicate _ => [
      (.predicateProse, Naming.inProse p.predicate),
      (.negationProse, Naming.inProse p.negation),
      (.predicateDemand, Naming.asDemand p.predicate),
      (.negationDemand, Naming.asDemand p.negation),
      (.predicate, p.predicate),
      (.negation, p.negation)]
  | _ => []

/-- The values for the holes of the template, in code placed in `package`. The name of the
    property comes last. -/
def filling (p : Property) (package : String) : Filling := .ofList ([
  (.propertyCapital, Naming.capitalized p.name),
  (.parameter, Naming.parameterName p.name),
  (.propertyType, p.type.reference package),
  (.propertyAssertClass, Naming.valueAssertClass p.type.simpleName),
  (.propertySimpleType, p.type.simpleName),
  (.reading, p.reading package),
  (.throws, p.throwsClause package),
  (.throwsDoc, p.throwsDoc package)] ++
  p.kindEntries package ++ [(.property, p.name)])

end AssertionWriter.Property
