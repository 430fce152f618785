/-
  AssertionWriter.QualifiedName.Parse

  Reading a name from its spelling, with `.` or `$` between nested types. The package
  ends before the first part that starts with an upper-case character; without such a
  part, the last one is the class.
-/
import AssertionWriter.QualifiedName.Basic
import AssertionWriter.Text.Alphanumeric
import AssertionWriter.Text.Basic
import AssertionWriter.Text.Blank
import AssertionWriter.Text.Uppercase

namespace AssertionWriter.QualifiedName
open Text

/-- Whether `c` may stand in a part of a name. -/
def isNameChar (c : Char) : Bool := isAlphanumeric c || c = '_' || c = '$'

/-- Whether a part between two dots is well formed. -/
def isPart (part : List Char) : Bool := !part.isEmpty && part.all isNameChar

/-- Whether a part starts a chain of classes. -/
def startsUppercase (part : List Char) : Bool := part.head?.any isUppercase

/-- Divides the parts of a name into those of the package and those of the class chain. -/
def splitPackage (parts : List (List Char)) : List (List Char) × List (List Char) :=
  if parts.any startsUppercase then
    (parts.takeWhile (!startsUppercase ·), parts.dropWhile (!startsUppercase ·))
  else (parts.dropLast, parts.drop (parts.length - 1))

/-- The name of a class chain, outermost class first, in a package given by its parts. -/
def ofChain? (package chain : List (List Char)) : Option QualifiedName :=
  if chain.any List.isEmpty then none
  else chain.getLast?.map fun simple =>
    { package := String.ofList (List.intercalate ['.'] package)
      enclosing := chain.dropLast.map String.ofList
      simple := String.ofList simple }

/-- Reads a name. White space around it is ignored; an empty part, or a character that no name
    has, makes it unreadable. -/
def parse? (text : String) : Option QualifiedName :=
  let parts := splitOn '.' (trim text.toList)
  if parts.all isPart then
    let (package, classes) := splitPackage parts
    ofChain? package (classes.flatMap (splitOn '$'))
  else none

end AssertionWriter.QualifiedName
