/-
  AssertionWriter.QualifiedName.Basic

  The name of a nominal type: its package, the types it is nested in, and its simple
  name; the spellings of such a name, the primitive types and their wrappers, and how
  code placed in some package refers to a name.
-/

namespace AssertionWriter

/-- The name of a type. -/
structure QualifiedName where
  /-- The owning package; empty for primitives and for types of the default package. -/
  package : String
  /-- The types around this one, outermost first. -/
  enclosing : List String
  /-- The name without package and enclosing types. -/
  simple : String
  deriving DecidableEq, Repr, Inhabited

/-! ## Primitive types -/

/-- The eight primitive types. -/
inductive Primitive where
  | boolean | byte | short | int | long | float | double | char
  deriving DecidableEq, Repr

namespace Primitive

/-- Every primitive type. -/
def all : List Primitive := [boolean, byte, short, int, long, float, double, char]

/-- The reserved word that names the type. -/
def keyword : Primitive → String
  | boolean => "boolean"
  | byte => "byte"
  | short => "short"
  | int => "int"
  | long => "long"
  | float => "float"
  | double => "double"
  | char => "char"

/-- The simple name of the class that wraps a value of the type. -/
def wrapper : Primitive → String
  | boolean => "Boolean"
  | byte => "Byte"
  | short => "Short"
  | int => "Integer"
  | long => "Long"
  | float => "Float"
  | double => "Double"
  | char => "Character"

end Primitive

namespace QualifiedName

/-- The package whose types are always in scope. -/
def builtInPackage : String := "java.lang"

/-- A type that is not nested. -/
def topLevelIn (package simple : String) : QualifiedName := ⟨package, [], simple⟩

/-- The type every class extends. -/
def object : QualifiedName := topLevelIn builtInPackage "Object"

/-- Whether the type is declared inside another. -/
def isNested (n : QualifiedName) : Bool := !n.enclosing.isEmpty

/-! ## Spellings -/

/-- `Outer.Inner`: the name as seen from its own package. -/
def outerQualified (n : QualifiedName) : String := ".".intercalate (n.enclosing ++ [n.simple])

/-- `OuterInner`: the stem of the names of companion classes. -/
def flatName (n : QualifiedName) : String := String.join (n.enclosing ++ [n.simple])

/-- `simple` as a member of `package`; the default package adds nothing. -/
def qualify (package simple : String) : String :=
  if package.isEmpty then simple else package ++ "." ++ simple

/-- `package.Outer.Inner`. -/
def qualified (n : QualifiedName) : String := qualify n.package n.outerQualified

/-- `package.Outer$Inner`: the spelling of names in catalogs. -/
def binary (n : QualifiedName) : String :=
  let outer := "$".intercalate n.enclosing
  qualify n.package (if outer.isEmpty then n.simple else outer ++ "$" ++ n.simple)

/-- The type the nesting starts from: `n` itself, unless it is nested. -/
def outermost (n : QualifiedName) : QualifiedName :=
  match n.enclosing with
  | [] => n
  | outer :: _ => topLevelIn n.package outer

/-! ## Primitives and wrappers -/

/-- The name of a primitive type. -/
def ofPrimitive (p : Primitive) : QualifiedName := topLevelIn "" p.keyword

/-- The primitive type that `n` names. -/
def primitive? (n : QualifiedName) : Option Primitive :=
  Primitive.all.find? fun p => n = ofPrimitive p

/-- The primitive type whose wrapper class `n` names. -/
def wrapped? (n : QualifiedName) : Option Primitive :=
  Primitive.all.find? fun p => n = topLevelIn builtInPackage p.wrapper

/-- The primitive type of the values of `n`, a primitive or a wrapper. -/
def valuePrimitive? (n : QualifiedName) : Option Primitive := n.primitive?.or n.wrapped?

/-- Whether `n` names a primitive type. -/
def isPrimitive (n : QualifiedName) : Bool := n.primitive?.isSome

/-- Whether `n` names a wrapper class. -/
def isWrapper (n : QualifiedName) : Bool := n.wrapped?.isSome

/-- The wrapper class of a primitive; every other name is left as it is. -/
def boxed (n : QualifiedName) : QualifiedName :=
  match n.primitive? with
  | some p => topLevelIn builtInPackage p.wrapper
  | none => n

/-! ## References -/

/-- Whether the name is in scope everywhere. -/
def isBuiltIn (n : QualifiedName) : Bool := n.isPrimitive || n.package = builtInPackage

/-- How code placed in the package `context` refers to `n`: with its package unless `n` is in
    scope without it. -/
def referenceFrom (n : QualifiedName) (context : String) : String :=
  if n.isBuiltIn || n.package = context then n.outerQualified else n.qualified

/-! ## Order -/

/-- Names are ordered by package, then by the name inside it. -/
protected def compare (a b : QualifiedName) : Ordering :=
  (compare a.package b.package).then (compare a.outerQualified b.outerQualified)

instance : Ord QualifiedName := ⟨QualifiedName.compare⟩

/-- `names` in ascending order; equal names keep their places relative to each other. -/
def sort (names : List QualifiedName) : List QualifiedName :=
  names.mergeSort fun a b => (compare a b).isLE

end QualifiedName
end AssertionWriter
