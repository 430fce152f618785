/-
  AssertionWriter.Surface.Description

  The surface of a type in a catalog. An accessor is a public instance method without
  parameters whose name says that it reads a value, or that is admitted for another
  reason; of several with one property the one nearest to the subject counts. Fields count
  unless an accessor gives the same value.
-/
import AssertionWriter.Catalog.Error
import AssertionWriter.Surface.Basic

namespace AssertionWriter

/-- Which methods count as accessors whatever their names say. -/
structure Admission where
  /-- Whether all methods of the type count. -/
  ofType : TypeDecl → Bool
  /-- Whether the method of the type counts. -/
  ofMethod : TypeDecl → MethodDecl → Bool

namespace Admission

/-- Only the names of methods decide. -/
def byName : Admission := ⟨fun _ => false, fun _ _ => false⟩

/-- Methods that bear the marker count, and all methods of types that bear it. -/
def byMarker (marker : String) : Admission := ⟨(·.hasMarker marker), fun _ m => m.hasMarker marker⟩

/-- Methods with one of these names count. -/
def ofMembers (names : List String) : Admission :=
  ⟨fun _ => false, fun _ m => names.contains m.name⟩

end Admission

/-- How surfaces are described. -/
structure DescriptionPolicy where
  admission : Admission := .byName
  /-- Whether fields that the subject hides count too. -/
  hiddenFields : Bool := false

namespace Surface

/-! ## Accessors -/

/-- The accessor that every enumeration inherits, and that tells nothing about its value. -/
def enumerationAccessor : String := "getDeclaringClass"

/-- The type of the value that the method gives, if it counts as an accessor of the subject. -/
def accessorType? (admission : Admission) (subject owner : TypeDecl) (m : MethodDecl) :
    Option JavaType :=
  m.returnType.filter fun type =>
    !m.isStatic && m.parameters.isEmpty && m.visibility.isPublic &&
      !(subject.kind = .enumeration && m.name = enumerationAccessor) &&
      (Naming.isGetter m.name type.isBoolean || admission.ofType owner ||
        admission.ofMethod owner m)

/-- The property that an accessor stands for. -/
def ofAccessor (c : Catalog) (m : MethodDecl) (type : JavaType) : Property where
  name := Naming.propertyOf m.name
  member := m.name
  type
  kind := .classify c m.name .accessor type
  origin := .accessor m.failures

/-- The accessors that `owner` declares, under the names of their properties. -/
def accessorsIn (c : Catalog) (admission : Admission) (subject owner : TypeDecl) :
    List (String × Property) :=
  owner.methods.filterMap fun m =>
    (accessorType? admission subject owner m).map fun type =>
      (Naming.propertyOf m.name, ofAccessor c m type)

/-! ## Fields -/

/-- Whether an accessor gives the value of the field: one of the same type that is named like the
    field's accessor or, for a boolean, like one of its predicates. -/
def isCovered (accessors : NameMap Property) (f : FieldDecl) : Bool :=
  accessors.values.any fun a =>
    a.type = f.type &&
      (a.member = Naming.getterOf f.name ||
        f.type.isBoolean && (Naming.predicatesOf f.name).contains a.member)

/-- The property that a field stands for. -/
def ofField (c : Catalog) (f : FieldDecl) : Property where
  name := f.name
  member := f.name
  type := f.type
  kind := .classify c f.name .field f.type
  origin := .field f.visibility

/-- The instance fields of `owner` that no accessor covers, under their names. -/
def fieldsIn (c : Catalog) (accessors : NameMap Property) (hidden : Bool) (owner : TypeDecl) :
    List (String × Property) :=
  (owner.fields.filter fun f =>
    !f.isStatic && (f.visibility.isPublic || hidden) && !isCovered accessors f).map fun f =>
      (f.name, ofField c f)

/-! ## Surfaces -/

/-- The surface of a declaration of the catalog. -/
def ofDeclaration (c : Catalog) (policy : DescriptionPolicy) (d : TypeDecl) : Surface :=
  -- Supertypes that the catalog lacks have no members to give.
  let supertypes := (c.supertypeNames d.name).filterMap c.find?
  let superclasses := (c.superclasses d.name).filterMap c.find?
  let declaredAccessors := NameMap.empty.addNew (accessorsIn c policy.admission d d)
  let accessors :=
    declaredAccessors.addNew (supertypes.flatMap (accessorsIn c policy.admission d))
  -- Inherited accessors cover declared fields too, so the accessors are complete by now.
  let declaredFields := NameMap.ofList (fieldsIn c accessors policy.hiddenFields d)
  let fields := declaredFields.addNew (superclasses.flatMap (fieldsIn c accessors false))
  { subject := d.name
    kind := d.kind
    subjectKind := .ofDeclaration c d
    parent := d.superclassName?.filter (· ≠ .object)
    isComparable := c.isComparable d.name
    accessors, fields, declaredAccessors, declaredFields }

/-- The surface of the type with a name. -/
def describe (c : Catalog) (policy : DescriptionPolicy) (n : QualifiedName) :
    Except CatalogError Surface :=
  match c.find? n with
  | none => .error (.notFound n.qualified)
  | some d =>
    match d.kind with
    | .anonymous => .error (.anonymousType n)
    | .localClass => .error (.localType n)
    | .ordinary | .interface | .enumeration => .ok (ofDeclaration c policy d)

end Surface
end AssertionWriter
