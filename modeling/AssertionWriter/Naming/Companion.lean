/-
  AssertionWriter.Naming.Companion

  The names that generated code introduces: the assertion classes that accompany a
  type, and parameters that are no reserved words.
-/
import AssertionWriter.Naming.Accessor
import AssertionWriter.QualifiedName.Basic

namespace AssertionWriter.Naming
open Text

/-! ## Parameters -/

/-- The reserved words of generated code. -/
def reservedWords : List String := [
  "abstract", "assert", "boolean", "break", "byte", "case", "catch", "char", "class", "const",
  "continue", "default", "do", "double", "else", "enum", "extends", "false", "final", "finally",
  "float", "for", "goto", "if", "implements", "import", "instanceof", "int", "interface", "long",
  "native", "new", "null", "package", "private", "protected", "public", "return", "short",
  "static", "strictfp", "super", "switch", "synchronized", "this", "throw", "throws",
  "transient", "true", "try", "void", "volatile", "while"]

/-- Whether `name` is a reserved word. -/
def isReserved (name : String) : Bool := reservedWords.contains name

/-- The name of a parameter for the value of a property. -/
def parameterName (property : String) : String :=
  if isReserved property then "expected" ++ capitalized property else property

/-! ## Classes -/

/-- The assertion class of a type: `TeamCoachAssert` for `Coach` in `Team`. -/
def assertClass (subject : QualifiedName) : String := subject.flatName ++ "Assert"

/-- The abstract assertion class of a type. -/
def abstractAssertClass (subject : QualifiedName) : String := "Abstract" ++ assertClass subject

/-- Takes the array brackets off the end of a text given from its end, and counts them. -/
def dropBrackets : List Char → List Char × Nat
  | ']' :: '[' :: r =>
    let (rest, n) := dropBrackets r
    (rest, n + 1)
  | r => (r, 0)

/-- The assertion class of the values of a type given by its simple name: `IntArrayAssert` for
    `int[]`, without the arguments a type may have. -/
def valueAssertClass (type : String) : String :=
  let (reversed, dimensions) := dropBrackets type.toList.reverse
  let raw := reversed.reverse.takeWhile (· ≠ '<')
  String.ofList ((splitOn '.' raw).flatMap capitalize) ++
    String.join (List.replicate dimensions "Array") ++ "Assert"

/-- The ending of the files of generated code. -/
def fileEnding : String := ".java"

end AssertionWriter.Naming
