/-
  AssertionWriter.Proofs.Surface.Locality

  What a surface depends on. Where the declared types of a set of names mention no names but
  those of the set, no walk through the hierarchy that starts in the set leaves it. So two
  catalogs that declare the same under these names give the same surfaces of their types.
  The least such set with a type in it is what the type leads to.
-/
import AssertionWriter.Proofs.Catalog.Superclasses
import AssertionWriter.Proofs.Surface.Accessors

namespace AssertionWriter

/-! ## Names in types -/

namespace JavaType

mutual
/-- The names that occur in the type. -/
def names : JavaType → List QualifiedName
  | named n as => n :: allNames as
  | array c => names c
  | typeVar _ | unbounded => []
  | extending b => names b

/-- The names that occur in some type of a list. -/
def allNames : List JavaType → List QualifiedName
  | [] => []
  | a :: as => names a ++ allNames as
end

theorem allNames_eq_flatMap (as : List JavaType) : allNames as = as.flatMap names := by
  induction as with
  | nil => rfl
  | cons a as ih => rw [allNames, ih, List.flatMap_cons]

theorem mem_names_of_name? {t : JavaType} {n : QualifiedName} (h : t.name? = some n) :
    n ∈ t.names := by
  cases t with
  | named m as =>
    obtain rfl := Option.some.inj h
    exact List.mem_cons_self ..
  | array | typeVar | unbounded | extending => cases h

mutual
/-- A substitution brings in no names but those of the bound types. -/
theorem mem_names_subst {σ : Bindings} {n : QualifiedName} :
    (t : JavaType) → n ∈ (t.subst σ).names → n ∈ t.names ∨ ∃ b ∈ σ, n ∈ b.2.names
  | named m as, h => by
    rw [subst, names, List.mem_cons] at h
    rcases h with rfl | h
    · exact .inl (List.mem_cons_self ..)
    · exact (mem_allNames_substAll as h).imp_left (List.mem_cons_of_mem _)
  | array c, h => mem_names_subst c h
  | typeVar v, h => by
    rw [subst] at h
    cases hv : σ.lookup v with
    | none =>
      rw [hv] at h
      exact .inl h
    | some t =>
      rw [hv] at h
      exact .inr ⟨(v, t), mem_of_lookup hv, h⟩
  | unbounded, h => .inl h
  | extending b, h => mem_names_subst b h

theorem mem_allNames_substAll {σ : Bindings} {n : QualifiedName} :
    (as : List JavaType) → n ∈ allNames (substAll σ as) →
      n ∈ allNames as ∨ ∃ b ∈ σ, n ∈ b.2.names
  | [], h => .inl h
  | a :: as, h => by
    rw [substAll, allNames, List.mem_append] at h
    rw [allNames, List.mem_append]
    rcases h with h | h
    · exact (mem_names_subst a h).imp_left .inl
    · exact (mem_allNames_substAll as h).imp_left .inr
end

end JavaType

/-- The names that occur in the supertypes of the declaration and in the types of the values that
    its members give. -/
def TypeDecl.mentions (d : TypeDecl) : List QualifiedName :=
  (d.directSupertypes ++ d.methods.filterMap (·.returnType) ++ d.fields.map (·.type)).flatMap
    JavaType.names

namespace Catalog

/-! ## Agreement -/

/-- The catalogs declare the same under the names of a set, and what they declare there mentions
    only names of the set. -/
structure AgreeOn (R : QualifiedName → Prop) (c c' : Catalog) : Prop where
  find?_eq : ∀ n, R n → c'.find? n = c.find? n
  closed : ∀ n d, R n → c.find? n = some d → ∀ m ∈ d.mentions, R m

/-- Every name of the type is in the set. -/
def Within (R : QualifiedName → Prop) (t : JavaType) : Prop := ∀ n ∈ t.names, R n

variable {R : QualifiedName → Prop} {c c' : Catalog} {n m : QualifiedName} {t : JavaType}

theorem Within.allNames {as : List JavaType} (h : Within R (.named n as)) :
    ∀ a ∈ as, Within R a := by
  intro a ha m hm
  refine h m (List.mem_cons_of_mem _ ?_)
  rw [JavaType.allNames_eq_flatMap]
  exact List.mem_flatMap.2 ⟨a, ha, hm⟩

namespace AgreeOn

theorem within_directSupertypes (h : AgreeOn R c c') (hn : R n) (ht : t ∈ c.directSupertypes n) :
    Within R t := by
  intro m hm
  rw [directSupertypes] at ht
  cases hfind : c.find? n with
  | none => simp [hfind] at ht
  | some d =>
    rw [hfind] at ht
    refine h.closed n d hn hfind m (List.mem_flatMap.2 ⟨t, ?_, hm⟩)
    exact List.mem_append_left _ (List.mem_append_left _ ht)

theorem directSupertypes_eq (h : AgreeOn R c c') (hn : R n) :
    c'.directSupertypes n = c.directSupertypes n := by
  rw [directSupertypes, h.find?_eq n hn, ← directSupertypes]

/-! ## Supertypes -/

variable {seen queue : List QualifiedName}

theorem of_mem_found (h : AgreeOn R c c') (hn : R n) (hm : m ∈ c.found seen n) : R m := by
  obtain ⟨p, hp, rfl⟩ := List.mem_map.1 hm
  obtain ⟨ht, hname, -⟩ := mem_fresh hp
  exact h.within_directSupertypes hn ht _ (JavaType.mem_names_of_name? hname)

/-- The types that are queued stay in the set, and so do those that are listed. -/
theorem walk_eq (h : AgreeOn R c c') (hqueue : ∀ m ∈ queue, R m) :
    c'.walk seen queue = c.walk seen queue ∧ ∀ m ∈ c.walkNames seen queue, R m := by
  induction seen, queue using walk_induction c with
  | nil seen => simp [walk_nil, walkNames_nil]
  | cons seen n queue ih =>
    have hn : R n := hqueue n (List.mem_cons_self ..)
    have hfound : ∀ m ∈ c.found seen n, R m := fun m => h.of_mem_found hn
    have hfound_eq : c'.found seen n = c.found seen n := by
      rw [found, h.directSupertypes_eq hn, ← found]
    obtain ⟨hwalk, hnames⟩ := ih fun m hm => (List.mem_append.1 hm).elim
      (fun hm => hqueue m (List.mem_cons_of_mem _ hm)) (hfound m)
    refine ⟨?_, fun m hm => ?_⟩
    · rw [walk_cons, walk_cons, hfound_eq, h.directSupertypes_eq hn, hwalk]
    · rw [walkNames_cons] at hm
      exact (List.mem_append.1 hm).elim (hfound m) (hnames m)

theorem supertypeNames_eq (h : AgreeOn R c c') (hn : R n) :
    c'.supertypeNames n = c.supertypeNames n := by
  rw [supertypeNames, supertypes, (h.walk_eq fun m hm => List.mem_singleton.1 hm ▸ hn).1,
    ← supertypes, ← supertypeNames]

theorem of_mem_supertypeNames (h : AgreeOn R c c') (hn : R n) (hm : m ∈ c.supertypeNames n) :
    R m := by
  rw [Catalog.supertypeNames_eq] at hm
  exact (h.walk_eq fun m hm => List.mem_singleton.1 hm ▸ hn).2 m hm

theorem isComparable_eq (h : AgreeOn R c c') (hn : R n) : c'.isComparable n = c.isComparable n := by
  rw [isComparable, isSubtypeOf, h.supertypeNames_eq hn, ← isSubtypeOf, ← isComparable]

theorem isContainer_eq (h : AgreeOn R c c') (hn : R n) : c'.isContainer n = c.isContainer n := by
  rw [isContainer, h.supertypeNames_eq hn, ← isContainer]

/-! ## Superclasses -/

theorem extendsClass_iff (h : AgreeOn R c c') (hn : R n) :
    c'.ExtendsClass n m ↔ c.ExtendsClass n m := by
  rw [ExtendsClass, h.find?_eq n hn, ← ExtendsClass]

theorem of_extendsClass (h : AgreeOn R c c') (hn : R n) (hm : c.ExtendsClass n m) : R m := by
  obtain ⟨t, ht, hname⟩ := hm.extends
  exact h.within_directSupertypes hn ht m (JavaType.mem_names_of_name? hname)

/-- A chain of superclasses stays in the set, and so it is one in both catalogs. -/
theorem isSuperclassChain (h : AgreeOn R c c') (hn : R n) {chain : List QualifiedName}
    (hchain : c.IsSuperclassChain seen n chain) :
    c'.IsSuperclassChain seen n chain ∧ ∀ m ∈ chain, R m := by
  induction chain generalizing seen n with
  | nil =>
    rw [isSuperclassChain_nil, stopsAt_iff] at hchain
    refine ⟨isSuperclassChain_nil.2 (stopsAt_iff.2 fun m hm => ?_), List.forall_mem_nil _⟩
    exact hchain m ((h.extendsClass_iff hn).1 hm)
  | cons m chain ih =>
    obtain ⟨hext, hfresh, hrest⟩ := isSuperclassChain_cons.1 hchain
    have hm : R m := h.of_extendsClass hn hext
    obtain ⟨hrest', hmem⟩ := ih hm hrest
    exact ⟨isSuperclassChain_cons.2 ⟨(h.extendsClass_iff hn).2 hext, hfresh, hrest'⟩,
      List.forall_mem_cons.2 ⟨hm, hmem⟩⟩

theorem superclasses_eq (h : AgreeOn R c c') (hn : R n) :
    c'.superclasses n = c.superclasses n := by
  have hchain := (h.isSuperclassChain hn (isSuperclassChain_self c [n] n)).1
  exact (isSuperclassChain_iff.1 hchain).symm

theorem of_mem_superclasses (h : AgreeOn R c c') (hn : R n) (hm : m ∈ c.superclasses n) : R m :=
  (h.isSuperclassChain hn (isSuperclassChain_self c [n] n)).2 m hm

/-! ## Elements -/

theorem within_supertypesAt (h : AgreeOn R c c') {d : TypeDecl} {args : List JavaType} (hn : R n)
    (hd : c.find? n = some d) (hargs : ∀ a ∈ args, Within R a) :
    ∀ u ∈ supertypesAt d args, Within R u := by
  intro u hu m hm
  obtain ⟨t, ht, rfl⟩ := List.mem_map.1 hu
  rcases JavaType.mem_names_subst t hm with hm | ⟨b, hb, hm⟩
  · refine h.within_directSupertypes hn ?_ m hm
    rwa [directSupertypes, hd]
  · exact hargs b.2 (List.of_mem_zip hb).2 m hm

theorem mem_visit_of_mem_settle {usage : JavaType} {args : List JavaType} {rest : List Search}
    (h : .visit usage ∈ Search.settle n args :: rest) :
    .visit usage ∈ Search.visit (.named n args) :: rest := by
  rcases List.mem_cons.1 h with heq | hmem
  · cases heq
  · exact List.mem_cons_of_mem _ hmem

/-- A search looks up no types but those of the usages that it visits, and these stay in the set:
    the arguments that are put in come from usages visited before. -/
theorem search_eq (h : AgreeOn R c c') {visited : List QualifiedName} {steps : List Search}
    (hsteps : ∀ usage, .visit usage ∈ steps → Within R usage) :
    c'.search visited steps = c.search visited steps := by
  fun_induction c.search visited steps with
  | case1 => rw [search]
  | case2 visited n args rest ih =>
    rw [search, ih fun usage husage => hsteps usage (List.mem_cons_of_mem _ husage)]
  | case3 visited args rest ih =>
    rw [search, if_pos rfl, ih fun usage husage => hsteps usage (List.mem_cons_of_mem _ husage)]
  | case4 visited n args rest hn hnone ih =>
    have hR : R n := hsteps _ (List.mem_cons_self ..) n (List.mem_cons_self ..)
    conv_lhs => rw [search, if_neg hn]
    split
    · exact ih fun usage husage => hsteps usage (mem_visit_of_mem_settle husage)
    · next d hd => simp [h.find?_eq n hR, hnone] at hd
  | case5 visited n args rest hn d hd hv ih =>
    have hR : R n := hsteps _ (List.mem_cons_self ..) n (List.mem_cons_self ..)
    conv_lhs => rw [search, if_neg hn]
    split
    · next hnone => simp [h.find?_eq n hR, hd] at hnone
    · rw [dif_pos hv]
      exact ih fun usage husage => hsteps usage (mem_visit_of_mem_settle husage)
  | case6 visited n args rest hn d hd hv hwork ih =>
    have hR : R n := hsteps _ (List.mem_cons_self ..) n (List.mem_cons_self ..)
    have hargs := (hsteps _ (List.mem_cons_self ..)).allNames
    rw [search, if_neg hn]
    split
    · next hnone => simp [h.find?_eq n hR, hd] at hnone
    · next d' hd' =>
      rw [h.find?_eq n hR, hd] at hd'
      obtain rfl := Option.some.inj hd'
      rw [dif_neg hv]
      refine ih fun usage husage => ?_
      rcases List.mem_append.1 husage with husage | husage
      · obtain ⟨u, hu, heq⟩ := List.mem_map.1 husage
        obtain rfl := Search.visit.inj heq
        exact h.within_supertypesAt hR hd hargs u hu
      · exact hsteps usage (mem_visit_of_mem_settle husage)
  | case7 visited usage rest husage ih =>
    rw [search, ih fun usage husage => hsteps usage (List.mem_cons_of_mem _ husage)]
    exact husage

end AgreeOn
end Catalog

open Catalog

variable {R : QualifiedName → Prop} {c c' : Catalog}

/-! ## Kinds of values -/

namespace ValueKind

theorem elementOf_eq (h : AgreeOn R c c') {usage : JavaType} (ht : Within R usage) :
    elementOf c' usage = elementOf c usage := by
  have hstep : ∀ u, Search.visit u ∈ [Search.visit usage] → Within R u := by
    intro u hu
    obtain rfl := Search.visit.inj (List.mem_singleton.1 hu)
    exact ht
  rw [elementOf, elementArgument?, h.search_eq hstep, ← elementArgument?, ← elementOf]

theorem classify_eq (h : AgreeOn R c c') (member : String) (kind : MemberKind) {type : JavaType}
    (ht : Within R type) : classify c' member kind type = classify c member kind type := by
  cases type with
  | named n as =>
    rw [classify, classify, h.isContainer_eq (ht n (List.mem_cons_self ..)), elementOf_eq h ht]
  | array | typeVar | unbounded | extending => rfl

theorem ofDeclaration_eq (h : AgreeOn R c c') {d : TypeDecl} (hn : R d.name) :
    ofDeclaration c' d = ofDeclaration c d := by
  have hraw : Within R (.raw d.name) := fun m hm => List.mem_singleton.1 hm ▸ hn
  rw [ofDeclaration, ofDeclaration, h.isContainer_eq hn, elementOf_eq h hraw]

end ValueKind

/-! ## Surfaces -/

namespace Surface

theorem accessorsIn_eq (h : AgreeOn R c c') (admission : Admission) (subject : TypeDecl)
    {owner : TypeDecl} (howner : ∀ m ∈ owner.mentions, R m) :
    accessorsIn c' admission subject owner = accessorsIn c admission subject owner := by
  refine List.filterMap_congr fun m hm => Option.map_congr fun type htype => ?_
  have hreturn : m.returnType = some type := (Option.filter_eq_some_iff.1 htype).1
  have hwithin : Within R type := fun n hn => howner n (List.mem_flatMap.2 ⟨type, by
    have hmem := List.mem_filterMap.2 ⟨m, hm, hreturn⟩
    exact List.mem_append_left _ (List.mem_append_right _ hmem), hn⟩)
  rw [ofAccessor, ValueKind.classify_eq h _ _ hwithin, ← ofAccessor]

theorem fieldsIn_eq (h : AgreeOn R c c') (accessors : NameMap Property) (hidden : Bool)
    {owner : TypeDecl} (howner : ∀ m ∈ owner.mentions, R m) :
    fieldsIn c' accessors hidden owner = fieldsIn c accessors hidden owner := by
  refine List.map_congr_left fun f hf => ?_
  have hwithin : Within R f.type := fun n hn => howner n (List.mem_flatMap.2 ⟨f.type,
    List.mem_append_right _ (List.mem_map_of_mem (List.mem_filter.1 hf).1), hn⟩)
  rw [ofField, ValueKind.classify_eq h _ _ hwithin, ← ofField]

/-- What the declarations of names in the set contribute is the same, if it is for declarations
    that mention names of the set only. -/
theorem flatMap_find?_eq {β : Type} (h : AgreeOn R c c') {names : List QualifiedName}
    (hnames : ∀ n ∈ names, R n) {f f' : TypeDecl → List β}
    (hf : ∀ owner, (∀ m ∈ owner.mentions, R m) → f' owner = f owner) :
    (names.filterMap c'.find?).flatMap f' = (names.filterMap c.find?).flatMap f := by
  rw [List.filterMap_congr fun n hn => h.find?_eq n (hnames n hn)]
  refine List.flatMap_congr fun owner howner => hf owner ?_
  obtain ⟨n, hn, hfind⟩ := List.mem_filterMap.1 howner
  exact h.closed n owner (hnames n hn) hfind

theorem ofDeclaration_eq (h : AgreeOn R c c') (policy : DescriptionPolicy) {d : TypeDecl}
    (hn : R d.name) (hd : c.find? d.name = some d) :
    ofDeclaration c' policy d = ofDeclaration c policy d := by
  have hsubject : ∀ m ∈ d.mentions, R m := h.closed d.name d hn hd
  have hinherited := flatMap_find?_eq h (fun m => h.of_mem_supertypeNames hn)
    fun owner => accessorsIn_eq h policy.admission d
  have hfields := fun accessors => flatMap_find?_eq h (fun m => h.of_mem_superclasses hn)
    fun owner => fieldsIn_eq h accessors false
  simp only [ofDeclaration, h.supertypeNames_eq hn, h.superclasses_eq hn, hinherited, hfields,
    accessorsIn_eq h _ _ hsubject, fieldsIn_eq h _ _ hsubject, ValueKind.ofDeclaration_eq h hn,
    h.isComparable_eq hn]

/-- The surface of a type depends on nothing but the declarations of a closed set that it is in. -/
theorem describe_eq (h : AgreeOn R c c') (policy : DescriptionPolicy) {n : QualifiedName}
    (hn : R n) : describe c' policy n = describe c policy n := by
  rw [describe, describe, h.find?_eq n hn]
  split
  · rfl
  · next d hd =>
    obtain rfl := name_of_find? hd
    rw [ofDeclaration_eq h policy hn hd]

end Surface

/-! ## What a name leads to -/

/-- The least set of names with `n` in it and, for each declared type in it, all names that the
    declaration mentions. -/
inductive Catalog.LeadsTo (c : Catalog) (n : QualifiedName) : QualifiedName → Prop
  | self : LeadsTo c n n
  | mention {m k : QualifiedName} {d : TypeDecl} (hm : LeadsTo c n m) (hd : c.find? m = some d)
      (hk : k ∈ d.mentions) : LeadsTo c n k

namespace Catalog

variable {n m : QualifiedName} {d : TypeDecl}

/-- What a name leads to is in every closed set that the name is in. -/
theorem LeadsTo.of_closed (h : c.LeadsTo n m) (hn : R n)
    (hclosed : ∀ m d, R m → c.find? m = some d → ∀ k ∈ d.mentions, R k) : R m := by
  induction h with
  | self => exact hn
  | mention _ hd hk ih => exact hclosed _ _ ih hd _ hk

/-- A declaration that `n` does not lead to may be put in, or replaced. -/
theorem agreeOn_insert (h : ¬c.LeadsTo n d.name) : AgreeOn (c.LeadsTo n) c (c.insert d) where
  find?_eq m hm := by
    have hne : m ≠ d.name := fun heq => h (heq ▸ hm)
    rw [find?_insert, if_neg hne]
  closed _ _ hm hd _ hk := .mention hm hd hk

end Catalog

namespace Surface

/-- The surface of a type stays the same, and so does the reason why there is none, whatever is
    declared under a name that the type does not lead to. -/
theorem describe_insert {n : QualifiedName} {d : TypeDecl} (h : ¬c.LeadsTo n d.name)
    (policy : DescriptionPolicy) : describe (c.insert d) policy n = describe c policy n :=
  describe_eq (agreeOn_insert h) policy .self

/-- A subclass of one of the two classes that extend each other. -/
def leaf : TypeDecl where
  name := ⟨"a", [], "Leaf"⟩
  superclass := some (.raw node.name)
  interfaces := [.raw Catalog.comparable]

/-- The two classes lead to each other and to the types of their values, and not to a subclass. -/
theorem not_leadsTo_leaf : ¬cyclic.LeadsTo node.name leaf.name := by
  intro h
  have hmem := h.of_closed (R := (· ∈ [node.name, link.name, ⟨"", [], "boolean"⟩, ⟨"", [], "int"⟩,
    .object])) (by decide) ?_
  · exact absurd hmem (by decide)
  · intro m d _ hfind
    have hdecls : cyclic.decls = [node, link] := by decide
    have hd := mem_of_find? hfind
    rw [hdecls, List.mem_pair] at hd
    rcases hd with rfl | rfl <;> decide

theorem describe_insert_leaf : ¬cyclic.LeadsTo node.name leaf.name ∧
    describe (cyclic.insert leaf) {} node.name = describe cyclic {} node.name :=
  ⟨not_leadsTo_leaf, describe_insert not_leadsTo_leaf {}⟩

end Surface
end AssertionWriter
