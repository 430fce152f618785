/-
  AssertionWriter.Catalog.Error

  What can be wrong with a request for types of a catalog.
-/
import AssertionWriter.QualifiedName.Basic

namespace AssertionWriter

/-- Why types of a catalog cannot be had or described. -/
inductive CatalogError where
  /-- No type, or no package with types, has the name. -/
  | notFound (name : String)
  /-- The type is anonymous, so its assertion class could have no name. -/
  | anonymousType (name : QualifiedName)
  /-- The type is local to a method, so code elsewhere cannot name it. -/
  | localType (name : QualifiedName)
  deriving DecidableEq, Repr

/-- The wording of an error. -/
def CatalogError.message : CatalogError → String
  | notFound name => "class not found: '" ++ name ++ "'"
  | anonymousType n => unnameable "anonymous" n
  | localType n => unnameable "local" n
where
  unnameable (what : String) (n : QualifiedName) : String :=
    "invalid argument: cannot generate assertions for " ++ what ++ " type '" ++ n.qualified ++ "'"

end AssertionWriter
