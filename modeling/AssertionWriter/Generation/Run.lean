/-
  AssertionWriter.Generation.Run

  A run of the generation: templates, types and their surfaces are gathered, the sources
  made from them, and then the files written: first the classes of all types, then the
  entry points. Nothing is written before all sources are there.
-/
import AssertionWriter.Catalog.Selection
import AssertionWriter.Generation.Options
import AssertionWriter.Generation.SourceFile
import AssertionWriter.Surface.Description

namespace AssertionWriter
open Files Template

namespace GenerationOptions

/-- How the surfaces are described. -/
def policy (o : GenerationOptions) : DescriptionPolicy where
  admission := o.marker.elim .byName .byMarker
  hiddenFields := o.hiddenFields

/-- The declarations that are asked for. -/
def selection (o : GenerationOptions) (c : Catalog) : Except CatalogError (List TypeDecl) :=
  if o.types.isEmpty then .ok c.selectAll else c.select o.types

/-- The surfaces of the types that are asked for. -/
def surfaces (o : GenerationOptions) (c : Catalog) : Except CatalogError (List Surface) := do
  (← o.selection c).mapM fun d => Surface.describe c o.policy d.name

/-- How the sources are written. -/
def writer (o : GenerationOptions) (templates : TemplateSet) : SourceWriter where
  templates
  package := o.package
  base := o.outputDirectory

/-- The files of the classes for a subject. -/
def classFiles (o : GenerationOptions) (templates : TemplateSet) (batch : List QualifiedName)
    (s : Surface) : Except Role (List SourceFile) :=
  if o.hierarchical then (o.writer templates).hierarchicalFiles s batch
  else return [← (o.writer templates).flatFile s]

/-- All files for some surfaces. -/
def sourceFiles (o : GenerationOptions) (templates : TemplateSet) (surfaces : List Surface) :
    Except Role (List SourceFile) := do
  -- The batch tells which parents have abstract classes to extend.
  let classes ← surfaces.mapM (o.classFiles templates (surfaces.map (·.subject)))
  let entryPoints ← o.entryPoints.mapM ((o.writer templates).entryPointFile? surfaces)
  return classes.flatten ++ entryPoints.filterMap id

/-- The number of types, and the files for them. -/
def plan (o : GenerationOptions) (c : Catalog) (templates : TemplateSet) :
    Except GenerationError (Nat × List SourceFile) := do
  let surfaces ← (o.surfaces c).mapError .catalog
  let files ← (o.sourceFiles templates surfaces).mapError .missingTemplate
  return (surfaces.length, files)

section
variable {m : Type → Type} [Monad m] [FileAccess m]

/-- The templates that are asked for. -/
def loadTemplates (o : GenerationOptions) : m (Except GenerationError TemplateSet) := do
  match o.templatesDirectory with
  | none => return .ok .default
  | some directory =>
    let (templates, roles) ← TemplateSet.default.overrideFrom directory
    return (roles.map fun _ => templates).mapError .template

/-- Generates assertion classes and entry points for types of a catalog. -/
def run (o : GenerationOptions) (c : Catalog) : m (Except GenerationError GenerationReport) := do
  match (← o.loadTemplates).bind (o.plan c) with
  | .error e => return .error e
  | .ok (types, files) =>
    return (← SourceFile.writeAll files).map fun paths => { types, files := paths }

end
end GenerationOptions
end AssertionWriter
