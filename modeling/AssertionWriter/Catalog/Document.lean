/-
  AssertionWriter.Catalog.Document

  Catalogs as JSON documents: an object with the list of the declarations, in which names
  and types are texts, and every field with an obvious default may be left out.
-/
import AssertionWriter.Catalog.Basic
import AssertionWriter.JavaType.Rendering
import AssertionWriter.Json.Decode
import AssertionWriter.Json.Printer

namespace AssertionWriter
open Json

/-! ## Kinds and visibilities -/

namespace DeclKind

/-- Every kind. -/
def all : List DeclKind := [ordinary, interface, enumeration, anonymous, localClass]

/-- The word for a kind in documents. -/
def word : DeclKind → String
  | ordinary => "class"
  | interface => "interface"
  | enumeration => "enumeration"
  | anonymous => "anonymous"
  | localClass => "local"

/-- The kinds by their words. -/
def variants : List (String × DeclKind) := all.map fun k => (k.word, k)

end DeclKind

namespace Visibility

/-- Every visibility. -/
def all : List Visibility := [toAll, toSubclasses, toPackage, toClass]

/-- The word for a visibility in documents. -/
def word : Visibility → String
  | toAll => "public"
  | toSubclasses => "protected"
  | toPackage => "package"
  | toClass => "private"

/-- The visibilities by their words. -/
def variants : List (String × Visibility) := all.map fun v => (v.word, v)

end Visibility

/-! ## Writing -/

/-- A name as it stands in documents. -/
def QualifiedName.toJson (n : QualifiedName) : Json := .string n.binary

/-- A type as it stands in documents. -/
def JavaType.toJson (t : JavaType) : Json := .string t.signature

/-- A type that may be missing. -/
def optionalType : Option JavaType → Json
  | some t => t.toJson
  | none => .null

/-- The document of a method. -/
def MethodDecl.toJson (m : MethodDecl) : Json := .object [
  ("name", .string m.name),
  ("return_type", optionalType m.returnType),
  ("parameters", .array (m.parameters.map JavaType.toJson)),
  ("throws", .array (m.failures.map QualifiedName.toJson)),
  ("visibility", .string m.visibility.word),
  ("is_static", .bool m.isStatic),
  ("markers", .ofTexts m.markers)]

/-- The document of a field. -/
def FieldDecl.toJson (f : FieldDecl) : Json := .object [
  ("name", .string f.name),
  ("field_type", f.type.toJson),
  ("visibility", .string f.visibility.word),
  ("is_static", .bool f.isStatic)]

/-- The document of a declaration. -/
def TypeDecl.toJson (d : TypeDecl) : Json := .object [
  ("name", d.name.toJson),
  ("kind", .string d.kind.word),
  ("visibility", .string d.visibility.word),
  ("type_parameters", .ofTexts d.typeParameters),
  ("supertype", optionalType d.superclass),
  ("interfaces", .array (d.interfaces.map JavaType.toJson)),
  ("methods", .array (d.methods.map MethodDecl.toJson)),
  ("fields", .array (d.fields.map FieldDecl.toJson)),
  ("markers", .ofTexts d.markers)]

/-- The document of a catalog. -/
def Catalog.toJson (c : Catalog) : Json :=
  .object [("types", .array (c.decls.map TypeDecl.toJson))]

/-- The text of a catalog. -/
def Catalog.toText (c : Catalog) : String := Json.pretty c.toJson

/-! ## Reading -/

/-- Reads a method. -/
def MethodDecl.ofJson : Decoder MethodDecl := fun v => do
  let r ← record "MethodShape"
    ["name", "return_type", "parameters", "throws", "visibility", "is_static", "markers"] v
  return {
    name := ← r.required "name" decodeText
    returnType := ← r.optional "return_type" (decodeOption decodeType) none
    parameters := ← r.optional "parameters" (decodeList decodeType) []
    failures := ← r.optional "throws" (decodeList decodeName) []
    visibility := ← r.optional "visibility" (decodeVariant Visibility.variants) .toAll
    isStatic := ← r.optional "is_static" decodeBool false
    markers := ← r.optional "markers" (decodeList decodeText) [] }

/-- Reads a field. -/
def FieldDecl.ofJson : Decoder FieldDecl := fun v => do
  let r ← record "FieldShape" ["name", "field_type", "visibility", "is_static"] v
  return {
    name := ← r.required "name" decodeText
    type := ← r.required "field_type" decodeType
    visibility := ← r.optional "visibility" (decodeVariant Visibility.variants) .toAll
    isStatic := ← r.optional "is_static" decodeBool false }

/-- Reads a declaration. -/
def TypeDecl.ofJson : Decoder TypeDecl := fun v => do
  let r ← record "TypeShape" ["name", "kind", "visibility", "type_parameters", "supertype",
    "interfaces", "methods", "fields", "markers"] v
  return {
    name := ← r.required "name" decodeName
    kind := ← r.optional "kind" (decodeVariant DeclKind.variants) .ordinary
    visibility := ← r.optional "visibility" (decodeVariant Visibility.variants) .toAll
    typeParameters := ← r.optional "type_parameters" (decodeList decodeText) []
    superclass := ← r.optional "supertype" (decodeOption decodeType) none
    interfaces := ← r.optional "interfaces" (decodeList decodeType) []
    methods := ← r.optional "methods" (decodeList MethodDecl.ofJson) []
    fields := ← r.optional "fields" (decodeList FieldDecl.ofJson) []
    markers := ← r.optional "markers" (decodeList decodeText) [] }

/-- Reads a catalog; of two declarations with one name the last counts. -/
def Catalog.ofJson : Decoder Catalog := fun v => do
  let r ← record "CatalogDocument" ["types"] v
  return .ofList (← r.required "types" (decodeList TypeDecl.ofJson))

/-- Reads a catalog from the text of a document. -/
def Catalog.parse (text : String) : Except Fault Catalog := decodeDocument Catalog.ofJson text

end AssertionWriter
