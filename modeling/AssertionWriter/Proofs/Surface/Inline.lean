/-
  AssertionWriter.Proofs.Surface.Inline

  The surfaces of a readable catalog whose members have the names of identifiers: every
  name and type in them is inline, those included that are found through the hierarchy.
-/
import AssertionWriter.Proofs.JavaType.Inline
import AssertionWriter.Surface.Description

namespace AssertionWriter
open Text

/-! ## Declarations -/

/-- A declaration of inline names and types. -/
structure TypeDecl.IsInline (d : TypeDecl) : Prop where
  name : d.name.IsInline
  supertypes : ∀ t ∈ d.directSupertypes, t.IsInline
  methodNames : ∀ m ∈ d.methods, Inline m.name
  returnTypes : ∀ m ∈ d.methods, ∀ t ∈ m.returnType, t.IsInline
  failures : ∀ m ∈ d.methods, ∀ n ∈ m.failures, n.IsInline
  fieldNames : ∀ f ∈ d.fields, Inline f.name
  fieldTypes : ∀ f ∈ d.fields, f.type.IsInline

namespace Catalog

/-- Whether the names of all methods and fields are identifiers. -/
def hasIdentifiers (c : Catalog) : Bool :=
  c.decls.all fun d => (d.methods.map (·.name) ++ d.fields.map (·.name)).all fun name =>
    name.toList.all QualifiedName.isNameChar

theorem inline_of_hasIdentifiers {c : Catalog} (h : c.hasIdentifiers = true) {d : TypeDecl}
    (hd : d ∈ c.decls) : (∀ m ∈ d.methods, Inline m.name) ∧ ∀ f ∈ d.fields, Inline f.name := by
  have hnames := List.all_eq_true.1 (List.all_eq_true.1 h d hd)
  constructor
  · intro m hm
    exact Inline.of_isNameChar (List.all_eq_true.1 (hnames m.name (List.mem_append_left _
      (List.mem_map_of_mem hm))))
  · intro f hf
    exact Inline.of_isNameChar (List.all_eq_true.1 (hnames f.name (List.mem_append_right _
      (List.mem_map_of_mem hf))))

theorem isInline_of_readable {c : Catalog} (hc : c.Readable) (h : c.hasIdentifiers = true)
    {d : TypeDecl} (hd : d ∈ c.decls) : d.IsInline := by
  have hr := hc d hd
  obtain ⟨hmethods, hfields⟩ := inline_of_hasIdentifiers h hd
  refine ⟨hr.name.isInline, ?_, hmethods,
    fun m hm t ht => ((hr.methods m hm).returnType t ht).isInline,
    fun m hm n hn => ((hr.methods m hm).failures n hn).isInline, hfields,
    fun f hf => (hr.fields f hf).isInline⟩
  intro t ht
  rcases List.mem_append.1 ht with ht | ht
  · exact (hr.superclass t (by simpa using ht)).isInline
  · exact (hr.interfaces t ht).isInline

/-! ## Elements -/

/-- The types in a step of a search are inline. -/
def Search.IsInline : Search → Prop
  | visit usage => usage.IsInline
  | settle _ args => ∀ t ∈ args, t.IsInline

theorem isInline_supertypesAt {d : TypeDecl} (hd : ∀ t ∈ d.directSupertypes, t.IsInline)
    {args : List JavaType} (hargs : ∀ t ∈ args, t.IsInline) :
    ∀ t ∈ supertypesAt d args, t.IsInline := by
  intro t ht
  obtain ⟨u, hu, rfl⟩ := List.mem_map.1 ht
  refine JavaType.isInline_subst (fun b hb => ?_) u (hd u hu)
  exact hargs b.2 (List.of_mem_zip hb).2

/-- Looking at the arguments instead of the usage. -/
theorem isInline_settle {n : QualifiedName} {args : List JavaType} {rest : List Search}
    (hs : ∀ s ∈ Search.visit (.named n args) :: rest, s.IsInline) :
    ∀ s ∈ Search.settle n args :: rest, s.IsInline := by
  have husage := hs _ (List.mem_cons_self ..)
  intro s hs'
  rcases List.mem_cons.1 hs' with rfl | hs'
  · exact JavaType.allInline_iff.1 husage.2
  · exact hs s (List.mem_cons_of_mem _ hs')

/-- A search that starts from inline types finds one. -/
theorem isInline_of_search {c : Catalog} (hc : ∀ d ∈ c.decls, d.IsInline)
    (visited : List QualifiedName) (steps : List Search) (hs : ∀ s ∈ steps, s.IsInline) :
    ∀ t ∈ c.search visited steps, t.IsInline := by
  fun_induction search c visited steps with
  | case1 => exact fun t ht => absurd ht (by simp)
  | case2 visited n args rest ih =>
    -- A type of the library has its first argument as the element.
    intro t ht
    rcases Option.or_eq_some_iff.1 ht with ht | ⟨-, ht⟩
    · rw [builtInElement?, Option.ite_none_right_eq_some] at ht
      exact hs _ (List.mem_cons_self ..) t (List.mem_of_head? ht.2)
    · exact ih (fun s hs' => hs s (List.mem_cons_of_mem _ hs')) t ht
  | case3 visited args rest ih =>
    intro t ht
    rcases Option.or_eq_some_iff.1 ht with ht | ⟨-, ht⟩
    · exact isInline_settle hs _ (List.mem_cons_self ..) t (List.mem_of_head? ht)
    · exact ih (fun s hs' => hs s (List.mem_cons_of_mem _ hs')) t ht
  | case4 visited n args rest hn hnone ih => exact ih (isInline_settle hs)
  | case5 visited n args rest hn d hd hv ih => exact ih (isInline_settle hs)
  | case6 visited n args rest hn d hd hv hwork ih =>
    -- The supertypes are those of a declaration, with the arguments of the usage put in.
    refine ih fun s hs' => ?_
    rcases List.mem_append.1 hs' with hs' | hs'
    · obtain ⟨u, hu, rfl⟩ := List.mem_map.1 hs'
      have hargs := isInline_settle hs _ (List.mem_cons_self ..)
      exact isInline_supertypesAt (hc d (mem_of_find? hd)).supertypes hargs u hu
    · exact isInline_settle hs s hs'
  | case7 visited usage rest husage ih =>
    exact ih fun s hs' => hs s (List.mem_cons_of_mem _ hs')

end Catalog

/-- The type of the elements of a kind of value is inline. -/
def ValueKind.IsInline (k : ValueKind) : Prop := ∀ t ∈ k.element?, t.IsInline

namespace ValueKind

theorem isInline_elementOf {c : Catalog} (hc : ∀ d ∈ c.decls, d.IsInline) {usage : JavaType}
    (h : usage.IsInline) : (elementOf c usage).IsInline := by
  have hsearch := Catalog.isInline_of_search hc [] [.visit usage] fun s hs => by
    rw [List.mem_singleton.1 hs]
    exact h
  rw [elementOf, Catalog.elementArgument?]
  cases hfound : c.search [] [.visit usage] with
  | none => exact JavaType.isInline_object
  | some t => exact (hsearch t hfound).concrete

/-- Primitive values and their wrappers have no elements. -/
theorem element?_ofPrimitive (boxed : Bool) (member : String) (kind : MemberKind)
    (p : Primitive) : (ofPrimitive boxed member kind p).element? = none := by
  cases p with
  | boolean =>
    rw [ofPrimitive]
    split <;> rfl
  | float | double | byte | short | int | long | char => rfl

theorem isInline_classify {c : Catalog} (hc : ∀ d ∈ c.decls, d.IsInline) (member : String)
    (kind : MemberKind) {type : JavaType} (h : type.IsInline) :
    (classify c member kind type).IsInline := by
  cases type with
  | array component =>
    intro t ht
    obtain rfl := Option.some.inj ht
    exact JavaType.IsInline.concrete h
  | named n as =>
    rw [classify]
    split
    · intro t ht
      obtain rfl := Option.some.inj ht
      exact isInline_elementOf hc h
    · split
      · exact fun t ht => absurd ht (by simp [element?_ofPrimitive])
      · exact fun t ht => absurd ht (by simp [element?])
  | typeVar | unbounded | extending => exact fun t ht => absurd ht (by simp [classify, element?])

end ValueKind

/-! ## Properties -/

/-- A property of inline names and types. -/
structure Property.IsInline (p : Property) : Prop where
  name : Inline p.name
  member : Inline p.member
  type : p.type.IsInline
  kind : p.kind.IsInline
  failures : ∀ n ∈ p.failures, n.IsInline

namespace NameMap

theorem mem_values_addNew {α : Type} {m : NameMap α} {es : List (String × α)} {w : α}
    (h : w ∈ (m.addNew es).values) : w ∈ m.values ∨ w ∈ es.map (·.2) := by
  obtain ⟨e, he, rfl⟩ := List.mem_map.1 h
  exact (mem_entries_addNew he).imp List.mem_map_of_mem List.mem_map_of_mem

theorem mem_values_ofList {α : Type} {es : List (String × α)} {w : α}
    (h : w ∈ (ofList es).values) : w ∈ es.map (·.2) := by
  obtain ⟨e, he, rfl⟩ := List.mem_map.1 h
  exact List.mem_map_of_mem (mem_entries_ofList he)

end NameMap

namespace Surface

/-- What a property is made from: an accessor that is declared with a value, or a field. -/
inductive IsReadOff (c : Catalog) : Property → Prop where
  | accessor {owner : TypeDecl} {m : MethodDecl} {type : JavaType} (ho : owner ∈ c.decls)
      (hm : m ∈ owner.methods) (htype : m.returnType = some type) :
      IsReadOff c (ofAccessor c m type)
  | field {owner : TypeDecl} {f : FieldDecl} (ho : owner ∈ c.decls) (hf : f ∈ owner.fields) :
      IsReadOff c (ofField c f)

theorem isReadOff_of_accessorsIn {c : Catalog} {admission : Admission} {subject owner : TypeDecl}
    (ho : owner ∈ c.decls) {e : String × Property}
    (he : e ∈ accessorsIn c admission subject owner) : IsReadOff c e.2 := by
  obtain ⟨m, hm, he⟩ := List.mem_filterMap.1 he
  obtain ⟨type, htype, rfl⟩ := Option.map_eq_some_iff.1 he
  exact .accessor ho hm (Option.filter_eq_some_iff.1 htype).1

theorem isReadOff_of_fieldsIn {c : Catalog} {accessors : NameMap Property} {hidden : Bool}
    {owner : TypeDecl} (ho : owner ∈ c.decls) {e : String × Property}
    (he : e ∈ fieldsIn c accessors hidden owner) : IsReadOff c e.2 := by
  obtain ⟨f, hf, rfl⟩ := List.mem_map.1 he
  exact .field ho (List.mem_filter.1 hf).1

theorem IsReadOff.isInline {c : Catalog} (hc : ∀ d ∈ c.decls, d.IsInline) {p : Property}
    (h : IsReadOff c p) : p.IsInline := by
  cases h with
  | @accessor owner m type ho hm htype =>
    have hd := hc owner ho
    have hname := hd.methodNames m hm
    have hreturn := hd.returnTypes m hm type htype
    exact ⟨Naming.inline_propertyOf hname, hname, hreturn,
      ValueKind.isInline_classify hc _ _ hreturn, hd.failures m hm⟩
  | @field owner f ho hf =>
    have hd := hc owner ho
    exact ⟨hd.fieldNames f hf, hd.fieldNames f hf, hd.fieldTypes f hf,
      ValueKind.isInline_classify hc _ _ (hd.fieldTypes f hf), fun n hn => absurd hn (by
        simp [Property.failures, ofField])⟩

/-- A surface of inline names and types. -/
structure IsInline (s : Surface) : Prop where
  subject : s.subject.IsInline
  parent : ∀ n ∈ s.parent, n.IsInline
  properties : ∀ p ∈ s.properties, p.IsInline
  declaredProperties : ∀ p ∈ s.declaredProperties, p.IsInline

theorem mem_of_mem_inOrder {s : Surface} {accessors fields : NameMap Property} {p : Property}
    (h : p ∈ s.inOrder accessors fields) : p ∈ accessors.values ∨ p ∈ fields.values :=
  (List.mem_append.1 h).imp_right fun h => (List.mem_filter.1 h).1

variable {c : Catalog} {policy : DescriptionPolicy} {d : TypeDecl} {p : Property}

theorem mem_decls_of_mem_filterMap {names : List QualifiedName} (h : d ∈ names.filterMap c.find?) :
    d ∈ c.decls := by
  obtain ⟨n, -, hfind⟩ := List.mem_filterMap.1 h
  exact Catalog.mem_of_find? hfind

theorem isReadOff_of_mem_declaredAccessors (hd : d ∈ c.decls)
    (hp : p ∈ (ofDeclaration c policy d).declaredAccessors.values) : IsReadOff c p := by
  rcases NameMap.mem_values_addNew hp with hp | hp
  · exact absurd hp (by simp [NameMap.empty, NameMap.values])
  · obtain ⟨e, he, rfl⟩ := List.mem_map.1 hp
    exact isReadOff_of_accessorsIn hd he

/-- The accessors are those of the declaration, and behind them those that it inherits. -/
theorem isReadOff_of_mem_accessors (hd : d ∈ c.decls)
    (hp : p ∈ (ofDeclaration c policy d).accessors.values) : IsReadOff c p := by
  rcases NameMap.mem_values_addNew hp with hp | hp
  · exact isReadOff_of_mem_declaredAccessors hd hp
  · obtain ⟨e, he, rfl⟩ := List.mem_map.1 hp
    obtain ⟨owner, ho, he⟩ := List.mem_flatMap.1 he
    exact isReadOff_of_accessorsIn (mem_decls_of_mem_filterMap ho) he

theorem isReadOff_of_mem_declaredFields (hd : d ∈ c.decls)
    (hp : p ∈ (ofDeclaration c policy d).declaredFields.values) : IsReadOff c p := by
  obtain ⟨e, he, rfl⟩ := List.mem_map.1 (NameMap.mem_values_ofList hp)
  exact isReadOff_of_fieldsIn hd he

theorem isReadOff_of_mem_fields (hd : d ∈ c.decls)
    (hp : p ∈ (ofDeclaration c policy d).fields.values) : IsReadOff c p := by
  rcases NameMap.mem_values_addNew hp with hp | hp
  · exact isReadOff_of_mem_declaredFields hd hp
  · obtain ⟨e, he, rfl⟩ := List.mem_map.1 hp
    obtain ⟨owner, ho, he⟩ := List.mem_flatMap.1 he
    exact isReadOff_of_fieldsIn (mem_decls_of_mem_filterMap ho) he

/-- The parent is the name of the superclass. -/
theorem isInline_of_mem_parent (hc : ∀ d ∈ c.decls, d.IsInline) (hd : d ∈ c.decls)
    {n : QualifiedName} (hn : n ∈ (ofDeclaration c policy d).parent) : n.IsInline := by
  obtain ⟨t, ht, hname⟩ := Option.bind_eq_some_iff.1 (Option.filter_eq_some_iff.1 hn).1
  have htype := (hc d hd).supertypes t (List.mem_append_left _ (by simpa using ht))
  cases t with
  | named m as =>
    obtain rfl := Option.some.inj hname
    exact htype.1
  | array | typeVar | unbounded | extending => exact absurd hname (by simp [JavaType.name?])

theorem wellFormed_of_mem_parent (hc : c.Readable) (hd : d ∈ c.decls) :
    ∀ n ∈ (ofDeclaration c policy d).parent, n.WellFormed := by
  intro n hn
  obtain ⟨t, ht, hname⟩ := Option.bind_eq_some_iff.1 (Option.filter_eq_some_iff.1 hn).1
  exact ((hc d hd).superclass t ht).wellFormed_of_name? hname

theorem isInline_ofDeclaration (hc : ∀ d ∈ c.decls, d.IsInline) (policy : DescriptionPolicy)
    (hd : d ∈ c.decls) : (ofDeclaration c policy d).IsInline where
  subject := (hc d hd).name
  parent _ hn := isInline_of_mem_parent hc hd hn
  properties _ hp := ((mem_of_mem_inOrder hp).elim (isReadOff_of_mem_accessors hd)
    (isReadOff_of_mem_fields hd)).isInline hc
  declaredProperties _ hp := ((mem_of_mem_inOrder hp).elim (isReadOff_of_mem_declaredAccessors hd)
    (isReadOff_of_mem_declaredFields hd)).isInline hc

/-- A description gives the surface of the declaration that the catalog has of the name. -/
theorem describe_eq_ok_iff {n : QualifiedName} {s : Surface} :
    describe c policy n = .ok s ↔
      ∃ d, c.find? n = some d ∧ d.kind.isNameable = true ∧ s = ofDeclaration c policy d := by
  unfold describe
  cases hfind : c.find? n with
  | none => simp
  | some d =>
    simp only [Option.some.injEq, exists_eq_left']
    cases d.kind <;> simp [DeclKind.isNameable, @eq_comm _ s]

theorem describe_eq_ok {n : QualifiedName} {s : Surface} (h : describe c policy n = .ok s) :
    ∃ d ∈ c.decls, d.name = n ∧ s = ofDeclaration c policy d := by
  obtain ⟨d, hd, -, hs⟩ := describe_eq_ok_iff.1 h
  exact ⟨d, Catalog.mem_of_find? hd, Catalog.name_of_find? hd, hs⟩

theorem isInline_of_describe (hc : c.Readable) (hi : c.hasIdentifiers = true) {n : QualifiedName}
    {s : Surface} (h : describe c policy n = .ok s) : s.IsInline := by
  obtain ⟨d, hd, -, rfl⟩ := describe_eq_ok h
  exact isInline_ofDeclaration (fun e he => Catalog.isInline_of_readable hc hi he) policy hd

end Surface
end AssertionWriter
