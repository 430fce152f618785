/-
  AssertionWriter.Proofs.Surface.ElementTypes

  The types of elements in a surface. A property of an array or of a container, and a subject
  that is a container, have elements of a closed type; it is the type that the usage states
  for them, if that is closed.
-/
import AssertionWriter.Proofs.Catalog.ElementSearch
import AssertionWriter.Proofs.JavaType.Concrete
import AssertionWriter.Proofs.Surface.Inline

namespace AssertionWriter

/-! ## Types of elements -/

/-- What a usage states to be the type of its elements: the component of an array, and otherwise
    what the hierarchy above the usage binds to the parameter of `Iterable`. -/
inductive Catalog.StatesElement (c : Catalog) : JavaType → JavaType → Prop where
  | component {t : JavaType} : StatesElement c (.array t) t
  | argument {usage t : JavaType} {visited : List QualifiedName}
      (h : c.Visits [] usage (some t) visited) : StatesElement c usage t

namespace Catalog
variable {c : Catalog} {t component : JavaType} {n : QualifiedName} {args : List JavaType}

theorem statesElement_array_iff : c.StatesElement (.array component) t ↔ t = component := by
  constructor
  · intro h
    cases h with
    | component => rfl
    | argument h => cases h
  · rintro rfl
    exact .component

theorem statesElement_named_iff :
    c.StatesElement (.named n args) t ↔ c.elementArgument? (.named n args) = some t := by
  constructor
  · intro h
    cases h with
    | argument h => exact h.elementArgument?_eq
  · -- The recursion ends in every hierarchy, so it finds what the search does.
    intro h
    obtain ⟨visited, hvisits⟩ := c.exists_visits_elementArgument? (.named n args)
    exact .argument (h ▸ hvisits)

end Catalog

namespace ValueKind
variable {c : Catalog}

/-- The type `e` for the elements of a value of the type `t`. -/
structure IsElementOf (c : Catalog) (e t : JavaType) : Prop where
  /-- Nothing in the type is left open. -/
  closed : e.IsClosed
  /-- A closed type that is stated for the elements is kept. -/
  kept : ∀ u, c.StatesElement t u → u.IsClosed → e = u
  /-- Where no type is stated, the elements may be anything. -/
  unstated : (∀ u, ¬c.StatesElement t u) → e = .object

theorem isElementOf_of_stated {t stated : JavaType}
    (h : ∀ u, c.StatesElement t u ↔ u = stated) : IsElementOf c (concrete stated) t where
  closed := isClosed_concrete stated
  kept u hu hclosed := by
    obtain rfl := (h u).1 hu
    exact concrete_eq_self hclosed
  unstated hnone := absurd ((h stated).2 rfl) (hnone stated)

theorem isElementOf_of_unstated {t : JavaType} (h : ∀ u, ¬c.StatesElement t u) :
    IsElementOf c .object t where
  closed := JavaType.isClosed_raw .object
  kept u hu := absurd hu (h u)
  unstated _ := rfl

theorem isElementOf_elementOf (c : Catalog) (n : QualifiedName) (args : List JavaType) :
    IsElementOf c (elementOf c (.named n args)) (.named n args) := by
  rw [elementOf]
  cases hfound : c.elementArgument? (.named n args) with
  | none =>
    refine isElementOf_of_unstated fun u hu => ?_
    rw [Catalog.statesElement_named_iff, hfound] at hu
    cases hu
  | some t =>
    refine isElementOf_of_stated fun u => ?_
    rw [Catalog.statesElement_named_iff, hfound, Option.some.injEq]
    exact eq_comm

theorem isElementOf_of_classify {member : String} {kind : MemberKind} {type e : JavaType}
    (h : (classify c member kind type).element? = some e) : IsElementOf c e type := by
  cases type with
  | array component =>
    obtain rfl := Option.some.inj h
    exact isElementOf_of_stated fun _ => Catalog.statesElement_array_iff
  | named n args =>
    rw [classify] at h
    split at h
    · obtain rfl := Option.some.inj h
      exact isElementOf_elementOf c n args
    · split at h
      · rw [element?_ofPrimitive] at h
        cases h
      · cases h
  | typeVar | unbounded | extending => cases h -- values of open types are plain

/-- The elements of an enumeration are its constants, whatever else it may be. -/
theorem cases_of_ofDeclaration {d : TypeDecl} {e : JavaType}
    (h : (ofDeclaration c d).element? = some e) :
    d.kind = .enumeration ∧ e = .raw d.name ∨
      d.kind ≠ .enumeration ∧ IsElementOf c e (.raw d.name) := by
  rw [ofDeclaration] at h
  split at h
  · next hkind => exact .inl ⟨hkind, (Option.some.inj h).symm⟩
  · next hkind =>
    split at h
    · obtain rfl := Option.some.inj h
      exact .inr ⟨hkind, isElementOf_elementOf c d.name []⟩
    · cases h

end ValueKind

/-! ## Surfaces -/

namespace Surface
open ValueKind

/-- The types of elements in a surface are those of the types of its properties, and of its
    subject. -/
structure HasElementsOf (c : Catalog) (s : Surface) : Prop where
  property : ∀ p ∈ s.accessors.values ++ s.fields.values ++ s.declaredAccessors.values ++
    s.declaredFields.values, ∀ e ∈ p.kind.element?, IsElementOf c e p.type
  /-- An enumeration has its constants as elements, even where it is a container too. -/
  subject : ∀ e ∈ s.subjectKind.element?, e.IsClosed ∧
    (s.kind ≠ .enumeration → IsElementOf c e (.raw s.subject))

theorem IsReadOff.isElementOf {c : Catalog} {p : Property} (h : IsReadOff c p) {e : JavaType}
    (he : p.kind.element? = some e) : IsElementOf c e p.type := by
  cases h with
  | accessor | field => exact isElementOf_of_classify he

/-- Whatever the hierarchy, the types of elements in a surface leave nothing open, and they are the
    types that are stated for the elements where these leave nothing open. -/
theorem hasElementsOf_of_describe {c : Catalog} {policy : DescriptionPolicy} {n : QualifiedName}
    {s : Surface} (h : describe c policy n = .ok s) : s.HasElementsOf c := by
  obtain ⟨d, hd, -, rfl⟩ := describe_eq_ok h
  constructor
  · intro p hp e he
    rw [List.mem_append, List.mem_append, List.mem_append] at hp
    rcases hp with ((hp | hp) | hp) | hp
    · exact (isReadOff_of_mem_accessors hd hp).isElementOf he
    · exact (isReadOff_of_mem_fields hd hp).isElementOf he
    · exact (isReadOff_of_mem_declaredAccessors hd hp).isElementOf he
    · exact (isReadOff_of_mem_declaredFields hd hp).isElementOf he
  · intro e he
    rcases cases_of_ofDeclaration he with ⟨hkind, rfl⟩ | ⟨-, helement⟩
    · exact ⟨JavaType.isClosed_raw d.name, fun hne => absurd hkind hne⟩
    · exact ⟨helement.closed, fun _ => helement⟩

/-- A generic container that is used raw, with open types deep in those of its members. -/
def crew : TypeDecl where
  name := ⟨"a", [], "Crew"⟩
  typeParameters := ["T"]
  interfaces := [.named Catalog.iterable [.typeVar "T"]]
  methods := [
    .reading "getWatches" (.named ⟨"java.util", [], "List"⟩
      [.extending (.array (.named ⟨"java.util", [], "Map"⟩ [.object, .typeVar "T"]))]),
    .reading "getMates" (.named ⟨"a", [], "Crew"⟩ [.array (.raw ⟨"a", [], "Sailor"⟩)])]
  fields := [⟨"ranks", .array (.array (.typeVar "T")), .toAll, false⟩]

/-- A catalog of the container alone. -/
def crews : Catalog := .ofList [crew]

theorem hasElementsOf_of_describe_crew :
    ∃ s, describe crews {} crew.name = .ok s ∧ s.HasElementsOf crews ∧
      s.properties.map (·.kind) = [
        .enumerable (.array (.raw ⟨"a", [], "Sailor"⟩)),
        .enumerable (.array (.raw ⟨"java.util", [], "Map"⟩)), .array (.array .object)] := by
  have hfind : crews.find? crew.name = some crew := by decide
  have hdescribe : describe crews {} crew.name = .ok (ofDeclaration crews {} crew) :=
    describe_eq_ok_iff.2 ⟨crew, hfind, rfl, rfl⟩
  exact ⟨_, hdescribe, hasElementsOf_of_describe hdescribe, by decide +kernel⟩

end Surface
end AssertionWriter
