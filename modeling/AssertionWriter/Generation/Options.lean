/-
  AssertionWriter.Generation.Options

  What a run of the generation is asked to do, and what it reports; both as JSON documents.
-/
import AssertionWriter.EntryPoint.Mode
import AssertionWriter.Json.Decode
import AssertionWriter.Json.Printer

namespace AssertionWriter
open Json

/-- What a run is asked to do. -/
structure GenerationOptions where
  /-- The types and packages to generate for; none stand for all types. -/
  types : List String
  /-- The directory that the packages lie in. -/
  outputDirectory : String
  /-- The package for all classes instead of those of their subjects. -/
  package : Option String
  /-- Whether to write pairs of abstract and concrete classes. -/
  hierarchical : Bool
  entryPoints : List EntryPointMode
  /-- The directory with templates to be used instead of the default ones. -/
  templatesDirectory : Option String
  /-- The marker that makes methods count as accessors. -/
  marker : Option String
  /-- Whether assertions are made about fields that are not public. -/
  hiddenFields : Bool
  deriving DecidableEq, Repr

/-- What a run has done. -/
structure GenerationReport where
  /-- The number of types with assertion classes. -/
  types : Nat
  /-- The files, in the order in which they were written. -/
  files : List String
  deriving DecidableEq, Repr

namespace GenerationOptions

/-- The output directory unless another one is asked for. -/
def defaultOutputDirectory : String := "./generated-assertions/"

/-- The entry points unless others are asked for. -/
def defaultEntryPoints : List EntryPointMode := [.standard]

/-- The document of some options. -/
def toJson (o : GenerationOptions) : Json := .object [
  ("types", .ofTexts o.types),
  ("output_dir", .string o.outputDirectory),
  ("package", .ofText? o.package),
  ("hierarchical", .bool o.hierarchical),
  ("entry_points", .ofTexts (o.entryPoints.map EntryPointMode.name)),
  ("templates_dir", .ofText? o.templatesDirectory),
  ("marker", .ofText? o.marker),
  ("include_non_public_fields", .bool o.hiddenFields)]

/-- Reads the entry points of a document. -/
def entryPointsOfJson : Decoder (List EntryPointMode) :=
  decodeList (decodeVariant EntryPointMode.variants)

/-- Reads options. -/
def ofJson : Decoder GenerationOptions := fun v => do
  let r ← record "GenerationOptions" ["types", "output_dir", "package", "hierarchical",
    "entry_points", "templates_dir", "marker", "include_non_public_fields"] v
  return {
    types := ← r.required "types" (decodeList decodeText)
    outputDirectory := ← r.required "output_dir" decodePath
    package := ← r.nullable "package" decodeText
    hierarchical := ← r.required "hierarchical" decodeBool
    entryPoints := ← r.required "entry_points" entryPointsOfJson
    templatesDirectory := ← r.nullable "templates_dir" decodePath
    marker := ← r.nullable "marker" decodeText
    hiddenFields := ← r.required "include_non_public_fields" decodeBool }

end GenerationOptions

/-- The document of a report, with the time that the run took. -/
def GenerationReport.toJson (r : GenerationReport) (milliseconds : Nat) : Json := .object [
  ("types", .ofNat r.types),
  ("files", .ofTexts r.files),
  ("generation_time_ms", .ofNat milliseconds)]

end AssertionWriter
