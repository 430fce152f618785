/-
  AssertionWriter.Naming.Accessor

  How the names of members and properties belong together: which members read a
  property by their names, the property a member stands for, and the names that a
  predicate, its contrary and its readings have.
-/
import AssertionWriter.Naming.Verb
import AssertionWriter.Text.CaseMap

namespace AssertionWriter.Naming
open Text

/-- `s` with its first character in upper case. -/
def capitalized (s : String) : String := String.ofList (capitalize s.toList)

/-- `s` with its first character in lower case. -/
def uncapitalized (s : String) : String := String.ofList (uncapitalize s.toList)

/-- The word that the names of accessors start with. -/
def getterWord : String := "get"

/-! ## Members and properties -/

/-- Whether the name of a member without parameters says that it reads a value: `getX` does, and
    a predicate name does if the value is a boolean. -/
def isGetter (member : String) (boolean : Bool) : Bool :=
  (behind? getterWord member.toList).isSome || boolean && isPredicate member

/-- The property that a member stands for: `name` for `getName`, `rookie` for `isRookie`. Every
    other member stands for itself. -/
def propertyOf (member : String) : String :=
  match (behind? getterWord member.toList).or (behind? "is" member.toList) with
  | some rest => String.ofList (uncapitalize rest)
  | none => member

/-- The accessor of a field. -/
def getterOf (field : String) : String := getterWord ++ capitalized field

/-- The names that a predicate reading a boolean field may have; the field's own name is one of
    them if it is that of a predicate. -/
def predicatesOf (field : String) : List String :=
  Verb.positiveWords.map (· ++ capitalized field) ++ getterOf field ::
    if isPredicate field then [field] else []

/-! ## Predicates -/

/-- The predicate name for a boolean member: the member itself if it is one, and else `isX`
    for `getX` and `x`. -/
def predicateOf (member : String) : String :=
  if isPredicate member then member
  else
    match behind? getterWord member.toList with
    | some rest => "is" ++ String.ofList (capitalize rest)
    | none => "is" ++ capitalized member

/-- The name of the contrary: `isNotX` for `isX`, `hasX` for `doesNotHaveX`. -/
def contrary (predicate : String) : String :=
  match predicate? predicate.toList with
  | some (v, rest) => v.opposite ++ String.ofList rest
  | none => "isNot" ++ capitalized predicate

/-- The reading of a predicate in documentation: `is rookie` for `isRookie`. -/
def inProse (predicate : String) : String :=
  match predicate? predicate.toList with
  | some (v, rest) => v.prose ++ " " ++ String.ofList (uncapitalize rest)
  | none => predicate

/-- The reading of a predicate in failure messages: `to be rookie` for `isRookie`. -/
def asDemand (predicate : String) : String :=
  match predicate? predicate.toList with
  | some (v, rest) => v.demand ++ " " ++ String.ofList (uncapitalize rest)
  | none => predicate

end AssertionWriter.Naming
