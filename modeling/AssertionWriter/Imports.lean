/-
  AssertionWriter.Imports

  The imports of a source file: the qualified names of the types it needs from other
  packages, in ascending order, among them those of the framework's helper classes that
  its text mentions.
-/
import AssertionWriter.NameMap
import AssertionWriter.QualifiedName.Parse

namespace AssertionWriter
open Text

/-- The names that a source file in a package imports. -/
structure Imports where
  package : String
  names : NameMap Unit

namespace Imports

/-- No imports yet. -/
def empty (package : String) : Imports := ⟨package, .empty⟩

/-- The imported names, in ascending order. -/
def toList (i : Imports) : List String := i.names.keys

/-- Whether a name is imported. -/
def contains (i : Imports) (name : String) : Bool := i.names.contains name

/-- The number of imported names. -/
def size (i : Imports) : Nat := i.toList.length

/-! ## Adding names -/

/-- The name that must be imported for a type to be in scope: that of the type its nesting starts
    from, unless it is in scope already or cannot be imported. -/
def neededFor? (i : Imports) (n : QualifiedName) : Option String :=
  if n.isBuiltIn || n.package.isEmpty || n.package = i.package then none
  else some n.outermost.qualified

/-- The package of a qualified name; `none` if it has no package. -/
def packageOf? (name : String) : Option String :=
  match (name.toList.reverse.dropWhile (· ≠ '.')) with
  | [] => none
  | _ :: reversed => some (String.ofList reversed.reverse)

/-- The qualified name itself, unless it is in scope already or cannot be imported. -/
def needed? (i : Imports) (name : String) : Option String :=
  (packageOf? name).bind fun package =>
    if package = QualifiedName.builtInPackage || package = i.package then none else some name

/-- Adds a name that is needed, and tells whether it is a new one. -/
def add (i : Imports) : Option String → Bool × Imports
  | none => (false, i)
  | some name => (!i.contains name, { i with names := i.names.insert name () })

/-- Adds what a type needs, and tells whether that is new. -/
def addType (i : Imports) (n : QualifiedName) : Bool × Imports := i.add (i.neededFor? n)

/-- Adds a qualified name, and tells whether it is a new one. -/
def addName (i : Imports) (name : String) : Bool × Imports := i.add (i.needed? name)

/-! ## Helper classes -/

/-- The helper classes by what tells that a text uses them. -/
def helpers : List (String × String) := [
  ("AbstractObjectAssert", "org.assertj.core.api.AbstractObjectAssert"),
  ("AbstractComparableAssert", "org.assertj.core.api.AbstractComparableAssert"),
  ("Assertions.", "org.assertj.core.api.Assertions"),
  ("Objects.", "org.assertj.core.util.Objects"),
  ("Iterables.", "org.assertj.core.internal.Iterables"),
  ("ObjectArrays.", "org.assertj.core.internal.ObjectArrays"),
  ("FieldSupport.", "org.assertj.core.util.introspection.FieldSupport"),
  ("Offset", "org.assertj.core.data.Offset")]

/-- Whether an unqualified name may start behind a character. -/
def mayPrecede (c : Char) : Bool := !QualifiedName.isNameChar c && c ≠ '.'

/-- Whether the end of a name, if it is one, is also the end of the word in the text. -/
def endsWord (mark rest : List Char) : Bool :=
  !(mark.getLast?.any QualifiedName.isNameChar && rest.head?.any QualifiedName.isNameChar)

/-- Whether `mark` stands in `s` as an unqualified name; `before` is the character in front. -/
def mentionsBehind (mark : List Char) (before : Option Char) : List Char → Bool
  | [] => false
  | c :: cs =>
    before.all mayPrecede && (after? mark (c :: cs)).any (endsWord mark) ||
      mentionsBehind mark (some c) cs

/-- Whether `mark` stands in a text as an unqualified name. -/
def mentions (text mark : String) : Bool := mentionsBehind mark.toList none text.toList

/-- Adds the helper classes that a text uses. -/
def addHelpers (i : Imports) (text : String) : Imports :=
  (helpers.filter fun h => mentions text h.1).foldl (fun i h => (i.addName h.2).2) i

/-! ## Text -/

/-- The import lines, with an empty line behind them if there are any. -/
def render (i : Imports) : String :=
  if i.toList.isEmpty then ""
  else String.join (i.toList.map fun name => "import " ++ name ++ ";\n") ++ "\n"

end Imports
end AssertionWriter
