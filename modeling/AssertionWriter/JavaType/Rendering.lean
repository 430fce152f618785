/-
  AssertionWriter.JavaType.Rendering

  The texts of a type: its signature, the spelling in catalogs, and the forms in which
  generated code refers to it.
-/
import AssertionWriter.JavaType.Basic

namespace AssertionWriter.JavaType

mutual
/-- The text of a type whose named types are spelled by `spell`, with all arguments. -/
def render (spell : QualifiedName → String) : JavaType → String
  | named n [] => spell n
  | named n (a :: as) => spell n ++ "<" ++ render spell a ++ renderMore spell as ++ ">"
  | array c => render spell c ++ "[]"
  | typeVar v => v
  | unbounded => "?"
  | extending b => "? extends " ++ render spell b

/-- The texts of further arguments, each after a comma. -/
def renderMore (spell : QualifiedName → String) : List JavaType → String
  | [] => ""
  | a :: as => ", " ++ render spell a ++ renderMore spell as
end

/-- The spelling of a type in catalogs. -/
def signature (t : JavaType) : String := t.render QualifiedName.binary

/-- The type in code placed in the package `context`. -/
def reference (t : JavaType) (context : String) : String := t.render (·.referenceFrom context)

/-- The type without arguments, as a class literal needs it; variables and wildcards stand for
    the type every class extends. -/
def rawReference (t : JavaType) (context : String) : String :=
  match t with
  | named n _ => n.referenceFrom context
  | array c => c.rawReference context ++ "[]"
  | typeVar _ | unbounded | extending _ => QualifiedName.object.referenceFrom context

/-- The type without arguments and packages. -/
def simpleName : JavaType → String
  | named n _ => n.outerQualified
  | array c => simpleName c ++ "[]"
  | typeVar v => v
  | unbounded | extending _ => QualifiedName.object.simple

end AssertionWriter.JavaType
