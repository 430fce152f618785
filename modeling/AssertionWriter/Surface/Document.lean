/-
  AssertionWriter.Surface.Document

  Surfaces as JSON documents.
-/
import AssertionWriter.Catalog.Document
import AssertionWriter.Surface.Basic

namespace AssertionWriter
open Json

/-! ## Writing -/

/-- The document of a kind of value. -/
def ValueKind.toJson (k : ValueKind) : Json :=
  .object (("shape", .string k.word) ::
    match k.element?, k.boxed? with
    | some e, _ => [("element", e.toJson)]
    | none, some b => [("boxed", .bool b)]
    | none, none => [])

/-- The document of an origin. -/
def Origin.toJson : Origin → Json
  | accessor failures => .object [
      ("origin", .string "accessor"),
      ("failures", .array (failures.map QualifiedName.toJson))]
  | field visibility => .object [
      ("origin", .string "field"),
      ("visibility", .string visibility.word)]

/-- The document of a property. -/
def Property.toJson (p : Property) : Json := .object [
  ("name", .string p.name),
  ("member", .string p.member),
  ("value_type", p.type.toJson),
  ("shape", p.kind.toJson),
  ("origin", p.origin.toJson)]

/-- The document of a set of properties. -/
def propertiesToJson (m : NameMap Property) : Json :=
  .object (m.entries.map fun (k, p) => (k, p.toJson))

/-- The document of a surface. -/
def Surface.toJson (s : Surface) : Json := .object [
  ("subject", s.subject.toJson),
  ("kind", .string s.kind.word),
  ("subject_shape", s.subjectKind.toJson),
  ("supertype", (s.parent.map QualifiedName.toJson).getD .null),
  ("implements_comparable", .bool s.isComparable),
  ("accessors", propertiesToJson s.accessors),
  ("fields", propertiesToJson s.fields),
  ("declared_accessors", propertiesToJson s.declaredAccessors),
  ("declared_fields", propertiesToJson s.declaredFields)]

/-! ## Reading -/

/-- What a record holds beside the word for the kind of a value. -/
inductive KindForm where
  | alone (kind : ValueKind)
  | withBoxed (kind : Bool → ValueKind)
  | withElement (kind : JavaType → ValueKind)

/-- The fields of a form. -/
def KindForm.fields : KindForm → List String
  | alone _ => []
  | withBoxed _ => ["boxed"]
  | withElement _ => ["element"]

/-- The forms of the kinds of values by their words. -/
def KindForm.variants : List (String × KindForm) := [
  ("plain", alone .plain),
  ("predicate", withBoxed .predicate),
  ("real_number", withBoxed .realNumber),
  ("whole_number", withBoxed .wholeNumber),
  ("char", withBoxed .character),
  ("array", withElement .array),
  ("enumerable", withElement .enumerable)]

/-- Reads a kind of value. -/
def ValueKind.ofJson : Decoder ValueKind := fun v => do
  let (form, r) ← tagged "PropertyShape" "shape" KindForm.variants KindForm.fields v
  match form with
  | .alone kind => return kind
  | .withBoxed kind => return kind (← r.required "boxed" decodeBool)
  | .withElement kind => return kind (← r.required "element" decodeType)

/-- Reads an origin. -/
def Origin.ofJson : Decoder Origin := fun v => do
  let (kind, r) ← tagged "PropertyOrigin" "origin"
    [("accessor", MemberKind.accessor), ("field", .field)]
    (fun | .accessor => ["failures"] | .field => ["visibility"]) v
  match kind with
  | .accessor => return .accessor (← r.required "failures" (decodeList decodeName))
  | .field => return .field (← r.required "visibility" (decodeFieldVariant Visibility.variants))

/-- Reads a property. -/
def Property.ofJson : Decoder Property := fun v => do
  let r ← record "PropertyDescription" ["name", "member", "value_type", "shape", "origin"] v
  return {
    name := ← r.required "name" decodeText
    member := ← r.required "member" decodeText
    type := ← r.required "value_type" decodeType
    kind := ← r.required "shape" ValueKind.ofJson
    origin := ← r.required "origin" Origin.ofJson }

/-- Reads a set of properties; of two under one name the last counts. -/
def propertiesOfJson : Decoder (NameMap Property) := fun v =>
  NameMap.ofList <$> decodeFields Property.ofJson v

/-- Reads a surface. -/
def Surface.ofJson : Decoder Surface := fun v => do
  let r ← record "ClassDescription" ["subject", "kind", "subject_shape", "supertype",
    "implements_comparable", "accessors", "fields", "declared_accessors", "declared_fields"] v
  return {
    subject := ← r.required "subject" decodeName
    kind := ← r.required "kind" (decodeVariant DeclKind.variants)
    subjectKind := ← r.required "subject_shape" ValueKind.ofJson
    parent := ← r.nullable "supertype" decodeName
    isComparable := ← r.required "implements_comparable" decodeBool
    accessors := ← r.required "accessors" propertiesOfJson
    fields := ← r.required "fields" propertiesOfJson
    declaredAccessors := ← r.required "declared_accessors" propertiesOfJson
    declaredFields := ← r.required "declared_fields" propertiesOfJson }

end AssertionWriter
