/-
  AssertionWriter.Catalog.Selection

  The types to generate for: those that a list of requests asks for by name or by
  package, in ascending order of their names and each once, or all that are eligible.
-/
import AssertionWriter.Catalog.Basic
import AssertionWriter.Catalog.Error
import AssertionWriter.QualifiedName.Parse
import AssertionWriter.Repeats

namespace AssertionWriter.Catalog

/-- The declaration that a request names, if assertion classes can be generated for it. -/
def requestedType? (c : Catalog) (request : String) : Option TypeDecl :=
  ((QualifiedName.parse? request).bind c.find?).filter TypeDecl.isEligible

/-- The declarations that a request without white space around it asks for: the type it names, or
    else the eligible types of the package it names. -/
def requested (c : Catalog) (request : String) : List TypeDecl :=
  match c.requestedType? request with
  | some d => [d]
  | none => c.decls.filter fun d => d.name.package = request && d.isEligible

/-- A request without the white space around it. -/
def trimmed (request : String) : String := String.ofList (Text.trim request.toList)

/-- The declarations in ascending order of their names. -/
def sortByName (decls : List TypeDecl) : List TypeDecl :=
  decls.mergeSort fun a b => (compare a.name b.name).isLE

/-- The declarations that some request asks for; the error names the first request, trimmed, that
    asks for nothing there is. -/
def select (c : Catalog) (requests : List String) : Except CatalogError (List TypeDecl) := do
  let found ← requests.mapM fun request =>
    match c.requested (trimmed request) with
    | [] => .error (.notFound (trimmed request))
    | ds => .ok ds
  return dropRepeats (·.name) (sortByName found.flatten)

/-- Every eligible declaration. -/
def selectAll (c : Catalog) : List TypeDecl := sortByName (c.decls.filter TypeDecl.isEligible)

end AssertionWriter.Catalog
