/-
  AssertionWriter.Proofs.Catalog.Containers

  The two walks over a hierarchy agree on what is a container. One lists all types above a
  type and looks for an iterable one among them; the other follows a usage upwards until
  it comes to an element. A search that finds none has been everywhere: it has passed over
  a type only if it was there before, or if the catalog lacks it.
-/
import AssertionWriter.Proofs.Catalog.ElementSearch

namespace AssertionWriter.Catalog

variable {c : Catalog} {n m : QualifiedName} {d : TypeDecl} {args usages : List JavaType}
  {usage t : JavaType} {visited visited' visited'' : List QualifiedName}

/-! ## Ways to an iterable type -/

/-- The type is iterable without a declaration, or some way through the hierarchy leads up to such
    a type. -/
def IsBelowIterable (c : Catalog) (n : QualifiedName) : Prop :=
  ∃ m ∈ builtInIterables, Relation.ReflTransGen c.Extends n m

theorem IsBelowIterable.of_extends (hstep : c.Extends n m) (h : c.IsBelowIterable m) :
    c.IsBelowIterable n := by
  obtain ⟨b, hb, hway⟩ := h
  exact ⟨b, hb, .head hstep hway⟩

theorem isContainer_iff (hn : n ∉ notContainers) :
    c.isContainer n = true ↔ c.IsBelowIterable n := by
  have hnot : (!notContainers.contains n) = true := by simpa using hn
  rw [isContainer, hnot, Bool.true_and, Bool.or_eq_true, List.contains_iff_mem, List.any_eq_true]
  constructor
  · rintro (hmem | ⟨m, hm, hbuiltIn⟩)
    · exact ⟨n, hmem, .refl⟩
    · exact ⟨m, List.contains_iff_mem.1 hbuiltIn, (mem_supertypeNames_iff.1 hm).2⟩
  · rintro ⟨m, hm, hway⟩
    by_cases heq : m = n
    · exact .inl (heq ▸ hm)
    · exact .inr ⟨m, mem_supertypeNames_iff.2 ⟨heq, hway⟩, List.contains_iff_mem.2 hm⟩

/-! ## What is found lies above -/

theorem mem_of_builtInElement? (h : builtInElement? n args = some t) : n ∈ builtInIterables := by
  by_contra hn
  rw [builtInElement?, if_neg hn] at h
  exact absurd h (by simp)

mutual
/-- A usage that gives an element names a type below an iterable one. -/
theorem Visits.isBelowIterable (hc : c.NoTypeVarAbove) {visited visited' : List QualifiedName}
    {usage t : JavaType} {found : Option JavaType} (hsome : found = some t) :
    c.Visits visited usage found visited' → ∃ n ∈ usage.name?, c.IsBelowIterable n
  | .unnamed _ => absurd hsome (by simp)
  | .reached => ⟨iterable, rfl, iterable, List.mem_cons_self .., .refl⟩
  | @Visits.passed _ _ n args _ _ => ⟨n, rfl, n, mem_of_builtInElement? hsome, .refl⟩
  | @Visits.declared _ _ _ n args d found _ hd _ above => by
    refine ⟨n, rfl, ?_⟩
    rcases Option.or_eq_some_iff.1 hsome with hfound | ⟨-, hown⟩
    · obtain ⟨u, hu, m, hm, hbelow⟩ := above.isBelowIterable hc hfound
      exact hbelow.of_extends (extends_of_mem_supertypesAt hc hd hu hm)
    · exact ⟨n, mem_of_builtInElement? hown, .refl⟩

theorem VisitsAll.isBelowIterable (hc : c.NoTypeVarAbove) {visited visited' : List QualifiedName}
    {usages : List JavaType} {t : JavaType} {found : Option JavaType} (hsome : found = some t) :
    c.VisitsAll visited usages found visited' →
      ∃ usage ∈ usages, ∃ n ∈ usage.name?, c.IsBelowIterable n
  | .nil => absurd hsome (by simp)
  | .found first => ⟨_, List.mem_cons_self .., first.isBelowIterable hc rfl⟩
  | .next _ rest => by
    obtain ⟨usage, husage, hbelow⟩ := rest.isBelowIterable hc hsome
    exact ⟨usage, List.mem_cons_of_mem _ husage, hbelow⟩
end

/-! ## What is not found lies nowhere above -/

/-- If the usage names a type that is iterable without a declaration, it gives an argument. -/
def GivesElement (usage : JavaType) : Prop :=
  ∀ n ∈ usage.name?, n ∈ builtInIterables → usage.args ≠ []

instance (usage : JavaType) : Decidable (GivesElement usage) :=
  inferInstanceAs (Decidable (∀ n ∈ usage.name?, n ∈ builtInIterables → usage.args ≠ []))

theorem GivesElement.subst (h : GivesElement t) (hvar : t.isTypeVar = false)
    (σ : JavaType.Bindings) : GivesElement (t.subst σ) := by
  intro n hn hmem
  rw [JavaType.name?_subst hvar] at hn
  rw [JavaType.args_subst hvar, ne_eq, List.map_eq_nil_iff]
  exact h n hn hmem

/-- The supertypes of each declaration are no variables, and those that are iterable without a
    declaration give an argument. -/
structure GivesElements (c : Catalog) : Prop where
  noTypeVarAbove : c.NoTypeVarAbove
  givesElement : ∀ d ∈ c.decls, ∀ t ∈ d.directSupertypes, GivesElement t

instance (c : Catalog) : Decidable c.GivesElements :=
  decidable_of_iff (c.NoTypeVarAbove ∧ ∀ d ∈ c.decls, ∀ t ∈ d.directSupertypes, GivesElement t)
    ⟨fun h => ⟨h.1, h.2⟩, fun h => ⟨h.1, h.2⟩⟩

theorem GivesElements.of_mem_supertypesAt (hc : c.GivesElements) (hd : d ∈ c.decls)
    (ht : t ∈ supertypesAt d args) : GivesElement t := by
  obtain ⟨u, hu, rfl⟩ := List.mem_map.1 ht
  exact (hc.givesElement d hd u hu).subst (hc.noTypeVarAbove d hd u hu) _

/-- The type is not iterable itself, and its supertypes need not be looked at any more. -/
structure IsExhausted (c : Catalog) (visited : List QualifiedName) (n : QualifiedName) : Prop where
  notBuiltIn : n ∉ builtInIterables
  visited : c.find? n = none ∨ n ∈ visited

theorem IsExhausted.mono (h : c.IsExhausted visited n) (hsub : visited ⊆ visited') :
    c.IsExhausted visited' n :=
  ⟨h.notBuiltIn, h.visited.imp_right fun hmem => hsub hmem⟩

/-- Only a declared type has supertypes. -/
theorem IsExhausted.mem_visited (h : c.IsExhausted visited n) (hstep : c.Extends n m) :
    n ∈ visited := by
  refine h.visited.resolve_left fun hnone => ?_
  obtain ⟨t, ht, -⟩ := hstep
  rw [directSupertypes, hnone] at ht
  exact absurd ht List.not_mem_nil

/-- Every type that a type extends is named by a usage above each of its usages. -/
theorem exists_mem_supertypesAt (hc : c.NoTypeVarAbove) (hd : c.find? n = some d)
    (hstep : c.Extends n m) (args : List JavaType) : ∃ t ∈ supertypesAt d args, m ∈ t.name? := by
  obtain ⟨u, hu, hname⟩ := hstep
  rw [directSupertypes, hd] at hu
  refine ⟨u.subst (bindings d args), List.mem_map_of_mem hu, ?_⟩
  rw [JavaType.name?_subst (hc d (mem_of_find? hd) u hu)]
  exact hname

/-- What a search that has found nothing leaves behind: the types that the usages name are
    exhausted, and so are the supertypes of all types that it has visited. -/
structure LeavesExhausted (c : Catalog) (usages : List JavaType)
    (visited visited' : List QualifiedName) : Prop where
  subset : visited ⊆ visited'
  named : ∀ usage ∈ usages, ∀ n ∈ usage.name?, c.IsExhausted visited' n
  above : ∀ n ∈ visited', n ∈ visited ∨ ∀ m, c.Extends n m → c.IsExhausted visited' m

namespace LeavesExhausted

theorem nil : c.LeavesExhausted [] visited visited where
  subset := List.Subset.refl _
  named _ h := absurd h List.not_mem_nil
  above _ h := .inl h

/-- A usage that names an exhausted type, or none, leaves everything as it is. -/
theorem of_isExhausted (h : ∀ n ∈ usage.name?, c.IsExhausted visited n) :
    c.LeavesExhausted [usage] visited visited where
  subset := List.Subset.refl _
  named u hu := by
    obtain rfl := List.mem_singleton.1 hu
    exact h
  above _ h := .inl h

theorem cons (h : c.LeavesExhausted [usage] visited visited')
    (h' : c.LeavesExhausted usages visited' visited'') :
    c.LeavesExhausted (usage :: usages) visited visited'' where
  subset := List.Subset.trans h.subset h'.subset
  named u hu n hn := by
    rcases List.mem_cons.1 hu with rfl | hu
    · exact (h.named u (List.mem_singleton_self u) n hn).mono h'.subset
    · exact h'.named u hu n hn
  above n hn := by
    rcases h'.above n hn with hn | hall
    · exact (h.above n hn).imp_right fun hall m hm => (hall m hm).mono h'.subset
    · exact .inr hall

/-- The supertypes leave their type exhausted behind, unless it is iterable itself. -/
theorem declared (hc : c.NoTypeVarAbove) (hd : c.find? n = some d) (hn : n ∉ builtInIterables)
    (h : c.LeavesExhausted (supertypesAt d args) (n :: visited) visited') :
    c.LeavesExhausted [.named n args] visited visited' where
  subset := List.Subset.trans (List.subset_cons_self n visited) h.subset
  named u hu m hm := by
    obtain rfl := List.mem_singleton.1 hu
    obtain rfl := Option.some.inj hm
    exact ⟨hn, .inr (h.subset (List.mem_cons_self ..))⟩
  above m hm := by
    rcases h.above m hm with hm | hall
    · rcases List.mem_cons.1 hm with rfl | hm
      · refine .inr fun k hk => ?_
        obtain ⟨u, hu, hname⟩ := exists_mem_supertypesAt hc hd hk args
        exact h.named u hu k hname
      · exact .inl hm
    · exact .inr hall

/-- Once nothing has been found from the start, no iterable type lies above an exhausted one. -/
theorem not_isBelowIterable (h : c.LeavesExhausted usages [] visited)
    (hn : c.IsExhausted visited n) : ¬c.IsBelowIterable n := by
  rintro ⟨b, hb, hway⟩
  -- Being exhausted is handed on from each type to the next one on the way.
  have hexhausted : c.IsExhausted visited b := by
    clear hb
    induction hway with
    | refl => exact hn
    | tail _ last ih =>
      exact (h.above _ (ih.mem_visited last)).resolve_left List.not_mem_nil _ last
  exact hexhausted.notBuiltIn hb

end LeavesExhausted

mutual
/-- A search that finds nothing has been wherever the usage leads. -/
theorem Visits.leavesExhausted (hc : c.GivesElements) {visited visited' : List QualifiedName}
    {usage : JavaType} {found : Option JavaType} (husage : GivesElement usage)
    (hnone : found = none) :
    c.Visits visited usage found visited' → c.LeavesExhausted [usage] visited visited'
  | .unnamed h => .of_isExhausted fun n hn => absurd (h.symm.trans hn) (by simp)
  | @Visits.reached _ _ args =>
    absurd (List.head?_eq_none_iff.1 hnone) (husage iterable rfl (List.mem_cons_self ..))
  | @Visits.passed _ _ n args _ h => by
    have hbuiltIn : n ∉ builtInIterables := fun hmem =>
      husage n rfl hmem (builtInElement?_eq_none_iff.1 hnone hmem)
    refine .of_isExhausted fun m hm => ?_
    obtain rfl := Option.some.inj hm
    exact ⟨hbuiltIn, h⟩
  | @Visits.declared _ _ _ n args d found _ hd _ above => by
    obtain ⟨habove, hown⟩ := Option.or_eq_none_iff.1 hnone
    have hbuiltIn : n ∉ builtInIterables := fun hmem =>
      husage n rfl hmem (builtInElement?_eq_none_iff.1 hown hmem)
    exact (above.leavesExhausted hc (fun t ht => hc.of_mem_supertypesAt (mem_of_find? hd) ht)
      habove).declared hc.noTypeVarAbove hd hbuiltIn

theorem VisitsAll.leavesExhausted (hc : c.GivesElements) {visited visited' : List QualifiedName}
    {usages : List JavaType} {found : Option JavaType}
    (husages : ∀ usage ∈ usages, GivesElement usage) (hnone : found = none) :
    c.VisitsAll visited usages found visited' → c.LeavesExhausted usages visited visited'
  | .nil => .nil
  | .found _ => absurd hnone (by simp)
  | .next first rest =>
    (first.leavesExhausted hc (husages _ (List.mem_cons_self ..)) rfl).cons
      (rest.leavesExhausted hc (fun u hu => husages u (List.mem_cons_of_mem _ hu)) hnone)
end

/-! ## Containers and elements -/

/-- A type is taken for a container exactly if its usages have elements, in every hierarchy in
    which the built-in iterable types are used with arguments. -/
theorem isContainer_iff_isSome_elementArgument? (hc : c.GivesElements)
    (hargs : GivesElement (.named n args)) (hn : n ∉ notContainers) :
    c.isContainer n = true ↔ (c.elementArgument? (.named n args)).isSome = true := by
  obtain ⟨visited, hvisits⟩ := c.exists_visits_elementArgument? (.named n args)
  rw [isContainer_iff hn]
  constructor
  · intro hbelow
    rw [Option.isSome_iff_ne_none]
    intro hnone
    have hleaves := hvisits.leavesExhausted hc hargs hnone
    exact hleaves.not_isBelowIterable
      (hleaves.named _ (List.mem_singleton_self _) n rfl) hbelow
  · intro hsome
    obtain ⟨t, ht⟩ := Option.isSome_iff_exists.1 hsome
    obtain ⟨m, hm, hbelow⟩ := hvisits.isBelowIterable hc.noTypeVarAbove ht
    obtain rfl := Option.some.inj hm
    exact hbelow

/-! ## A ring with a missing type -/

/-- One half of a ring of two interfaces. -/
def link : TypeDecl where
  name := ⟨"a", [], "Link"⟩
  kind := .interface
  typeParameters := ["E"]
  interfaces := [.named ⟨"a", [], "Chain"⟩ [.typeVar "E"]]

/-- The other half, which extends a type that the catalog lacks, too, and at last a collection. -/
def chain : TypeDecl where
  name := ⟨"a", [], "Chain"⟩
  kind := .interface
  typeParameters := ["E"]
  interfaces := [.raw ⟨"a", [], "Lost"⟩, .named link.name [.typeVar "E"],
    .named ⟨"java.util", [], "Collection"⟩ [.typeVar "E"]]

/-- A catalog of the two. -/
def ring : Catalog := .ofList [link, chain]

theorem isContainer_iff_isSome_elementArgument?_ring :
    let args : List JavaType := [.raw ⟨"a", [], "Bead"⟩]
    ring.GivesElements ∧ GivesElement (.named link.name args) ∧ link.name ∉ notContainers ∧
      ring.isContainer link.name = true ∧
      (ring.elementArgument? (.named link.name args)).isSome = true := by
  intro args
  have hc : ring.GivesElements := by decide
  have hargs : GivesElement (.named link.name args) := by decide
  have hn : link.name ∉ notContainers := by decide
  have hcontainer : ring.isContainer link.name = true := by decide +kernel
  exact ⟨hc, hargs, hn, hcontainer,
    (isContainer_iff_isSome_elementArgument? hc hargs hn).1 hcontainer⟩

end AssertionWriter.Catalog
