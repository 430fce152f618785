/-
  AssertionWriter.Proofs.Surface.Accessors

  The accessors of a surface, said without the maps that they are collected in: of which
  methods there are any, which of several methods stands under the name of a property, and
  that no property of a surface has the name of another.
-/
import AssertionWriter.Proofs.Surface.Inline

namespace AssertionWriter

/-- The type of a name and behind it its supertypes, nearest first, as far as the catalog
    declares them. -/
def Catalog.lineage (c : Catalog) (n : QualifiedName) : List TypeDecl :=
  (n :: c.supertypeNames n).filterMap c.find?

namespace Surface

/-! ## Which methods count -/

/-- The method reads a value of the subject: everyone can call it on an instance without
    arguments, and its name or the policy says that it counts. The accessor that enumerations
    inherit tells nothing about their values. -/
structure IsAccessor (admission : Admission) (subject owner : TypeDecl) (m : MethodDecl)
    (type : JavaType) : Prop where
  returnType : m.returnType = some type
  visibility : m.visibility = .toAll
  isStatic : m.isStatic = false
  parameters : m.parameters = []
  not_inherent : ¬(subject.kind = .enumeration ∧ m.name = "getDeclaringClass")
  counts : Naming.isGetter m.name type.isBoolean = true ∨ admission.ofType owner = true ∨
    admission.ofMethod owner m = true

/-- The method is an accessor of the property. -/
def Offers (admission : Admission) (subject owner : TypeDecl) (property : String)
    (m : MethodDecl) : Prop :=
  Naming.propertyOf m.name = property ∧ ∃ type, IsAccessor admission subject owner m type

/-- The method is the first of its type that is an accessor of the property, and no type in
    front of its own has one. -/
structure IsNearest (admission : Admission) (subject : TypeDecl) (owners : List TypeDecl)
    (property : String) (owner : TypeDecl) (m : MethodDecl) : Prop where
  offers : Offers admission subject owner property m
  first : ∃ before behind, owner.methods = before ++ m :: behind ∧
    ∀ m' ∈ before, ¬Offers admission subject owner property m'
  nearest : ∃ nearer farther, owners = nearer ++ owner :: farther ∧
    ∀ o ∈ nearer, ∀ m' ∈ o.methods, ¬Offers admission subject o property m'

/-- The map holds the accessors of the subject among the methods of the owners: under the name
    of each property that any of them offers, the method that is nearest. -/
structure CollectsAccessors (accessors : NameMap Property) (c : Catalog) (admission : Admission)
    (subject : TypeDecl) (owners : List TypeDecl) : Prop where
  keys : ∀ k, k ∈ accessors.keys ↔
    ∃ owner ∈ owners, ∃ m ∈ owner.methods, Offers admission subject owner k m
  entries : ∀ k p, accessors.get? k = some p ↔
    ∃ owner m type, IsNearest admission subject owners k owner m ∧ m.returnType = some type ∧
      p = { name := k, member := m.name, type, kind := .classify c m.name .accessor type,
            origin := .accessor m.failures }
  names : ∀ e ∈ accessors.entries, e.2.name = e.1

variable {c : Catalog} {admission : Admission} {subject owner : TypeDecl} {owners : List TypeDecl}

theorem accessorType?_eq_some_iff {m : MethodDecl} {type : JavaType} :
    accessorType? admission subject owner m = some type ↔
      IsAccessor admission subject owner m type := by
  simp only [accessorType?, Visibility.isPublic, Option.filter_eq_some_iff, Bool.and_eq_true,
    Bool.not_eq_true', List.isEmpty_iff, decide_eq_true_eq, Bool.or_eq_true, or_assoc,
    Bool.and_eq_false_iff, decide_eq_false_iff_not]
  constructor
  · rintro ⟨hreturn, ⟨⟨⟨hstatic, hparameters⟩, hvisibility⟩, hinherent⟩, hcounts⟩
    exact ⟨hreturn, hvisibility, hstatic, hparameters,
      Decidable.not_and_iff_not_or_not.2 hinherent, hcounts⟩
  · rintro ⟨hreturn, hvisibility, hstatic, hparameters, hinherent, hcounts⟩
    exact ⟨hreturn, ⟨⟨⟨hstatic, hparameters⟩, hvisibility⟩,
      Decidable.not_and_iff_not_or_not.1 hinherent⟩, hcounts⟩

/-! ## The accessors of one type -/

/-- The property that a method gives under the name `k`. -/
def offered? (c : Catalog) (admission : Admission) (subject owner : TypeDecl) (k : String)
    (m : MethodDecl) : Option Property :=
  (accessorType? admission subject owner m).bind fun type =>
    if k = Naming.propertyOf m.name then some (ofAccessor c m type) else none

theorem offered?_eq_some_iff {k : String} {m : MethodDecl} {p : Property} :
    offered? c admission subject owner k m = some p ↔
      Naming.propertyOf m.name = k ∧
        ∃ type, IsAccessor admission subject owner m type ∧ p = ofAccessor c m type := by
  simp only [offered?, Option.bind_eq_some_iff, accessorType?_eq_some_iff,
    Option.ite_none_right_eq_some, Option.some.injEq, @eq_comm _ p, @eq_comm _ k]
  constructor
  · rintro ⟨type, htype, hname, hp⟩
    exact ⟨hname, type, htype, hp⟩
  · rintro ⟨hname, type, htype, hp⟩
    exact ⟨type, htype, hname, hp⟩

theorem isSome_offered? {k : String} {m : MethodDecl} :
    (offered? c admission subject owner k m).isSome = true ↔
      Offers admission subject owner k m := by
  rw [Option.isSome_iff_exists]
  simp only [offered?_eq_some_iff]
  constructor
  · rintro ⟨_, hname, type, htype, -⟩
    exact ⟨hname, type, htype⟩
  · rintro ⟨hname, type, htype⟩
    exact ⟨_, hname, type, htype, rfl⟩

theorem offered?_eq_none_iff {k : String} {m : MethodDecl} :
    offered? c admission subject owner k m = none ↔ ¬Offers admission subject owner k m := by
  rw [← isSome_offered? (c := c), Option.not_isSome_iff_eq_none]

/-- The first method that is an accessor of the property decides. -/
theorem lookup_accessorsIn (k : String) :
    (accessorsIn c admission subject owner).lookup k =
      owner.methods.findSome? (offered? c admission subject owner k) := by
  rw [accessorsIn, lookup_filterMap]
  congr 1
  funext m
  rw [offered?, Option.bind_map]
  rfl

theorem lookup_accessorsIn_eq_none_iff {k : String} :
    (accessorsIn c admission subject owner).lookup k = none ↔
      ∀ m ∈ owner.methods, ¬Offers admission subject owner k m := by
  rw [lookup_accessorsIn, List.findSome?_eq_none_iff]
  exact forall₂_congr fun _ _ => offered?_eq_none_iff

theorem isSome_lookup_accessorsIn {k : String} :
    ((accessorsIn c admission subject owner).lookup k).isSome = true ↔
      ∃ m ∈ owner.methods, Offers admission subject owner k m := by
  rw [lookup_accessorsIn, List.findSome?_isSome_iff]
  exact exists_congr fun _ => and_congr_right fun _ => isSome_offered?

/-! ## The accessors of several types -/

/-- The accessors of the owners, each type's behind those of the types in front of it. -/
def collected (c : Catalog) (admission : Admission) (subject : TypeDecl)
    (owners : List TypeDecl) : NameMap Property :=
  NameMap.empty.addNew (owners.flatMap (accessorsIn c admission subject))

/-- The first owner that has an accessor of the property decides. -/
theorem get?_collected (k : String) :
    (collected c admission subject owners).get? k =
      owners.findSome? fun owner => (accessorsIn c admission subject owner).lookup k := by
  rw [collected, NameMap.get?_addNew, NameMap.get?_empty, Option.none_or, lookup_flatMap]

theorem get?_collected_eq_some_iff {k : String} {p : Property} :
    (collected c admission subject owners).get? k = some p ↔
      ∃ owner m type, IsNearest admission subject owners k owner m ∧ m.returnType = some type ∧
        p = { name := k, member := m.name, type, kind := .classify c m.name .accessor type,
              origin := .accessor m.failures } := by
  rw [get?_collected, List.findSome?_eq_some_iff]
  constructor
  · rintro ⟨nearer, owner, farther, howners, hlookup, hnearer⟩
    rw [lookup_accessorsIn, List.findSome?_eq_some_iff] at hlookup
    obtain ⟨before, m, behind, hmethods, hoffered, hbefore⟩ := hlookup
    obtain ⟨rfl, type, htype, rfl⟩ := offered?_eq_some_iff.1 hoffered
    refine ⟨owner, m, type, ⟨⟨rfl, type, htype⟩, ⟨before, behind, hmethods, ?_⟩,
      ⟨nearer, farther, howners, ?_⟩⟩, htype.returnType, rfl⟩
    · exact fun m' hm' => offered?_eq_none_iff.1 (hbefore m' hm')
    · exact fun o ho => lookup_accessorsIn_eq_none_iff.1 (hnearer o ho)
  · rintro ⟨owner, m, type, ⟨⟨rfl, type', htype⟩, ⟨before, behind, hmethods, hbefore⟩,
      ⟨nearer, farther, howners, hnearer⟩⟩, hreturn, rfl⟩
    obtain rfl := Option.some.inj (htype.returnType.symm.trans hreturn)
    refine ⟨nearer, owner, farther, howners, ?_, ?_⟩
    · rw [lookup_accessorsIn, List.findSome?_eq_some_iff]
      exact ⟨before, m, behind, hmethods, offered?_eq_some_iff.2 ⟨rfl, type', htype, rfl⟩,
        fun m' hm' => offered?_eq_none_iff.2 (hbefore m' hm')⟩
    · exact fun o ho => lookup_accessorsIn_eq_none_iff.2 (hnearer o ho)

theorem mem_keys_collected {k : String} :
    k ∈ (collected c admission subject owners).keys ↔
      ∃ owner ∈ owners, ∃ m ∈ owner.methods, Offers admission subject owner k m := by
  rw [NameMap.mem_keys_iff, NameMap.contains, get?_collected, List.findSome?_isSome_iff]
  exact exists_congr fun _ => and_congr_right fun _ => isSome_lookup_accessorsIn

theorem name_of_mem_collected {e : String × Property}
    (h : e ∈ (collected c admission subject owners).entries) : e.2.name = e.1 := by
  rcases NameMap.mem_entries_addNew h with h | h
  · exact absurd h List.not_mem_nil
  · obtain ⟨owner, -, he⟩ := List.mem_flatMap.1 h
    obtain ⟨m, -, hm⟩ := List.mem_filterMap.1 he
    obtain ⟨type, -, rfl⟩ := Option.map_eq_some_iff.1 hm
    rfl

theorem collectsAccessors_collected :
    CollectsAccessors (collected c admission subject owners) c admission subject owners where
  keys _ := mem_keys_collected
  entries _ _ := get?_collected_eq_some_iff
  names _ := name_of_mem_collected

/-! ## The accessors of a surface -/

variable {policy : DescriptionPolicy} {d : TypeDecl}

theorem declaredAccessors_eq :
    (ofDeclaration c policy d).declaredAccessors = collected c policy.admission d [d] := by
  simp [ofDeclaration, collected]

theorem accessors_eq (hd : c.find? d.name = some d) :
    (ofDeclaration c policy d).accessors =
      collected c policy.admission d (c.lineage d.name) := by
  have hlineage : c.lineage d.name = d :: (c.supertypeNames d.name).filterMap c.find? :=
    List.filterMap_cons_some hd
  rw [collected, hlineage, List.flatMap_cons, NameMap.addNew_append]
  rfl

/-! ## Names of properties -/

theorem name_of_mem_fieldsIn {accessors : NameMap Property} {hidden : Bool}
    {e : String × Property} (h : e ∈ fieldsIn c accessors hidden owner) : e.2.name = e.1 := by
  obtain ⟨f, -, rfl⟩ := List.mem_map.1 h
  rfl

theorem name_of_mem_fields {e : String × Property}
    (h : e ∈ (ofDeclaration c policy d).fields.entries) : e.2.name = e.1 := by
  rcases NameMap.mem_entries_addNew h with h | h
  · exact name_of_mem_fieldsIn (NameMap.mem_entries_ofList h)
  · obtain ⟨owner, -, he⟩ := List.mem_flatMap.1 h
    exact name_of_mem_fieldsIn he

/-- Where properties stand under their names, their names are the keys. -/
theorem map_name_values {m : NameMap Property} (h : ∀ e ∈ m.entries, e.2.name = e.1) :
    m.values.map (·.name) = m.keys := by
  rw [NameMap.values, NameMap.keys, List.map_map]
  exact List.map_congr_left h

/-- No two properties have one name, if accessors and fields stand under their names. -/
theorem nodup_names {s : Surface} (ha : ∀ e ∈ s.accessors.entries, e.2.name = e.1)
    (hf : ∀ e ∈ s.fields.entries, e.2.name = e.1) : (s.properties.map (·.name)).Nodup := by
  have hfields : (s.fields.values.map (·.name)).Nodup := by
    rw [map_name_values hf]
    exact s.fields.nodup_keys
  rw [properties, inOrder, List.map_append, map_name_values ha, List.nodup_append]
  refine ⟨s.accessors.nodup_keys, hfields.sublist (List.filter_sublist.map _), ?_⟩
  -- A field that is named like an accessor has been left out.
  rintro k hk _ hname rfl
  obtain ⟨f, hmem, rfl⟩ := List.mem_map.1 hname
  have hnot := (List.mem_filter.1 hmem).2
  rw [hasAccessor, NameMap.mem_keys_iff.1 hk] at hnot
  exact absurd hnot (by simp)

/-- The accessors of a surface are those of the subject and its supertypes, the nearest of each
    property, and those that it declares are its own; no two properties have one name. -/
theorem collectsAccessors_of_describe {n : QualifiedName} {s : Surface}
    (h : describe c policy n = .ok s) :
    ∃ d, c.find? n = some d ∧
      CollectsAccessors s.accessors c policy.admission d (c.lineage n) ∧
      CollectsAccessors s.declaredAccessors c policy.admission d [d] ∧
      (s.properties.map (·.name)).Nodup := by
  obtain ⟨d, hd, -, rfl⟩ := describe_eq_ok_iff.1 h
  obtain rfl := Catalog.name_of_find? hd
  have haccessors : CollectsAccessors (ofDeclaration c policy d).accessors c policy.admission d
      (c.lineage d.name) := by
    rw [accessors_eq hd]
    exact collectsAccessors_collected
  refine ⟨d, hd, haccessors, ?_, nodup_names haccessors.names fun e => name_of_mem_fields⟩
  rw [declaredAccessors_eq]
  exact collectsAccessors_collected

/-- A class that extends its own subclass, with two accessors of one property. -/
def node : TypeDecl where
  name := ⟨"a", [], "Node"⟩
  superclass := some (.raw ⟨"a", [], "Link"⟩)
  methods := [.reading "isNext" (.raw ⟨"", [], "boolean"⟩), .reading "getNext" .object]

/-- The subclass, with an accessor of the same property and one of its own. -/
def link : TypeDecl where
  name := ⟨"a", [], "Link"⟩
  superclass := some (.raw ⟨"a", [], "Node"⟩)
  methods := [.reading "getNext" .object, .reading "getSize" (.raw ⟨"", [], "int"⟩)]

/-- A catalog in which each of two classes extends the other. -/
def cyclic : Catalog := .ofList [node, link]

theorem collectsAccessors_of_describe_cyclic :
    ∃ s, describe cyclic {} node.name = .ok s ∧ ∃ d, cyclic.find? node.name = some d ∧
      CollectsAccessors s.accessors cyclic .byName d (cyclic.lineage node.name) ∧
      CollectsAccessors s.declaredAccessors cyclic .byName d [d] ∧
      (s.properties.map (·.name)).Nodup := by
  have hfind : cyclic.find? node.name = some node := by decide
  have hdescribe : describe cyclic {} node.name = .ok (ofDeclaration cyclic {} node) :=
    describe_eq_ok_iff.2 ⟨node, hfind, rfl, rfl⟩
  exact ⟨_, hdescribe, collectsAccessors_of_describe hdescribe⟩

example : (ofDeclaration cyclic {} node).accessors.values.map (·.member) =
    ["isNext", "getSize"] := by decide +kernel

end Surface
end AssertionWriter
