/-
  AssertionWriter.Proofs.Catalog.Instantiation

  Instantiating a usage instantiates its element. The parameters of a declaration may be
  named like variables at the place of the usage, but a usage with arguments for all of
  them leaves none of them over, so the two are never confused on the way up.
-/
import AssertionWriter.Proofs.Catalog.ElementSearch

namespace AssertionWriter.Catalog

variable {c : Catalog} {n : QualifiedName} {d : TypeDecl} {args : List JavaType} {t : JavaType}

/-! ## Declarations that can be instantiated -/

/-- If the usage names a declared type, it gives an argument to each of its parameters. -/
def Saturates (c : Catalog) (usage : JavaType) : Prop :=
  ∀ n ∈ usage.name?, ∀ d ∈ c.find? n, usage.args.length = d.typeParameters.length

instance (c : Catalog) (usage : JavaType) : Decidable (c.Saturates usage) :=
  inferInstanceAs (Decidable
    (∀ n ∈ usage.name?, ∀ d ∈ c.find? n, usage.args.length = d.typeParameters.length))

/-- The supertypes of each declaration are no variables, have no variables other than its type
    parameters, and give arguments to all parameters of the types they name. -/
structure IsGeneric (c : Catalog) : Prop where
  noTypeVarAbove : c.NoTypeVarAbove
  closed : ∀ d ∈ c.decls, ∀ t ∈ d.directSupertypes, ∀ v ∈ t.typeVars, v ∈ d.typeParameters
  saturates : ∀ d ∈ c.decls, ∀ t ∈ d.directSupertypes, c.Saturates t

instance (c : Catalog) : Decidable c.IsGeneric :=
  decidable_of_iff (c.NoTypeVarAbove ∧
      (∀ d ∈ c.decls, ∀ t ∈ d.directSupertypes, ∀ v ∈ t.typeVars, v ∈ d.typeParameters) ∧
      ∀ d ∈ c.decls, ∀ t ∈ d.directSupertypes, c.Saturates t)
    ⟨fun h => ⟨h.1, h.2.1, h.2.2⟩, fun h => ⟨h.1, h.2, h.3⟩⟩

theorem Saturates.subst (h : c.Saturates t) (hvar : t.isTypeVar = false) (σ : JavaType.Bindings) :
    c.Saturates (t.subst σ) := by
  intro n hn d hd
  rw [JavaType.name?_subst hvar] at hn
  rw [JavaType.args_subst hvar, List.length_map]
  exact h n hn d hd

/-! ## One step up -/

/-- The supertypes of an instantiated usage are those of the usage, instantiated. -/
theorem IsGeneric.supertypesAt_map (hc : c.IsGeneric) (hd : d ∈ c.decls)
    (hargs : args.length = d.typeParameters.length) (σ : JavaType.Bindings) :
    supertypesAt d (args.map (JavaType.subst σ)) =
      (supertypesAt d args).map (JavaType.subst σ) := by
  rw [supertypesAt, supertypesAt, List.map_map]
  refine List.map_congr_left fun t ht => ?_
  -- All variables of the supertype are parameters, so `σ` gets at the arguments alone.
  have hbound : ∀ v ∈ t.typeVars, (bindings d args).lookup v ≠ none := fun v hv =>
    JavaType.lookup_zip_ne_none hargs (hc.closed d hd t ht v hv)
  rw [Function.comp_apply, JavaType.subst_subst_of_bound σ hbound, bindings, bindings,
    List.zip_map_right]
  rfl

/-- What holds of the supertypes in a declaration holds of them as usages. -/
theorem IsGeneric.of_mem_supertypesAt (hc : c.IsGeneric) (hd : d ∈ c.decls)
    (ht : t ∈ supertypesAt d args) : t.isTypeVar = false ∧ c.Saturates t := by
  obtain ⟨u, hu, rfl⟩ := List.mem_map.1 ht
  have hvar := hc.noTypeVarAbove d hd u hu
  exact ⟨JavaType.isTypeVar_subst hvar, (hc.saturates d hd u hu).subst hvar _⟩

theorem builtInElement?_map (n : QualifiedName) (args : List JavaType) (f : JavaType → JavaType) :
    builtInElement? n (args.map f) = (builtInElement? n args).map f := by
  rw [builtInElement?, builtInElement?]
  split
  · rw [List.head?_map]
  · rfl

/-! ## The whole way up -/

mutual
/-- An instantiated usage has the same types visited, and what it gives is instantiated. -/
theorem Visits.subst (hc : c.IsGeneric) (σ : JavaType.Bindings)
    {visited visited' : List QualifiedName} {usage : JavaType} {found : Option JavaType}
    (hvar : usage.isTypeVar = false) (hargs : c.Saturates usage) :
    c.Visits visited usage found visited' →
      c.Visits visited (usage.subst σ) (found.map (JavaType.subst σ)) visited'
  | .unnamed h => .unnamed ((JavaType.name?_subst hvar).trans h)
  | @Visits.reached _ _ args => by
    rw [JavaType.subst, JavaType.substAll_eq_map, ← List.head?_map]
    exact .reached
  | @Visits.passed _ _ n args hn h => by
    rw [JavaType.subst, JavaType.substAll_eq_map, ← builtInElement?_map]
    exact .passed hn h
  | @Visits.declared _ _ _ n args d found hn hd hv above => by
    have hmem := mem_of_find? hd
    have hlength : args.length = d.typeParameters.length := hargs n rfl d hd
    have habove := above.subst hc σ fun t ht => hc.of_mem_supertypesAt hmem ht
    rw [← hc.supertypesAt_map hmem hlength σ] at habove
    rw [JavaType.subst, JavaType.substAll_eq_map, Option.map_or, ← builtInElement?_map]
    exact .declared hn hd hv habove

theorem VisitsAll.subst (hc : c.IsGeneric) (σ : JavaType.Bindings)
    {visited visited' : List QualifiedName} {usages : List JavaType} {found : Option JavaType}
    (husages : ∀ usage ∈ usages, usage.isTypeVar = false ∧ c.Saturates usage) :
    c.VisitsAll visited usages found visited' →
      c.VisitsAll visited (usages.map (JavaType.subst σ)) (found.map (JavaType.subst σ)) visited'
  | .nil => .nil
  | .found first => by
    obtain ⟨hvar, hargs⟩ := husages _ (List.mem_cons_self ..)
    exact .found (first.subst hc σ hvar hargs)
  | .next first rest => by
    obtain ⟨hvar, hargs⟩ := husages _ (List.mem_cons_self ..)
    exact .next (first.subst hc σ hvar hargs)
      (rest.subst hc σ fun usage h => husages usage (List.mem_cons_of_mem _ h))
end

/-- The element of an instantiated usage is the element of the usage, instantiated, in every
    hierarchy of generic types. -/
theorem elementArgument?_subst (hc : c.IsGeneric) (hargs : c.Saturates (.named n args))
    (σ : JavaType.Bindings) :
    c.elementArgument? ((JavaType.named n args).subst σ) =
      (c.elementArgument? (.named n args)).map (JavaType.subst σ) := by
  obtain ⟨visited, hvisits⟩ := c.exists_visits_elementArgument? (.named n args)
  exact (hvisits.subst hc σ rfl hargs).elementArgument?_eq

/-! ## Parameters named like variables of the usage -/

/-- An iterable pair of which the elements are of the second type. -/
def pair : TypeDecl where
  name := ⟨"a", [], "Pair"⟩
  typeParameters := ["A", "B"]
  interfaces := [.named iterable [.typeVar "B"]]

/-- A pair with the types the other way round; it and a type that extends it form a cycle. -/
def swapped : TypeDecl where
  name := ⟨"a", [], "Swapped"⟩
  typeParameters := ["A", "B"]
  interfaces := [.named ⟨"a", [], "Twice"⟩ [.typeVar "B", .typeVar "A"],
    .named pair.name [.typeVar "B", .array (.typeVar "A")]]

/-- A pair that has been swapped again. -/
def twice : TypeDecl where
  name := ⟨"a", [], "Twice"⟩
  typeParameters := ["B", "A"]
  superclass := some (.named swapped.name [.typeVar "A", .typeVar "B"])

/-- A catalog of the three. -/
def pairs : Catalog := .ofList [pair, swapped, twice]

/-- The variables of the usage are called like the parameters, and each is replaced by a type in
    which the other occurs. -/
theorem elementArgument?_subst_pairs :
    let usage : JavaType := .named twice.name [.typeVar "A", .typeVar "B"]
    let σ : JavaType.Bindings := [("A", .array (.typeVar "B")), ("B", .extending (.typeVar "A"))]
    pairs.IsGeneric ∧ pairs.Saturates usage ∧
      pairs.elementArgument? usage = some (.array (.typeVar "B")) ∧
      pairs.elementArgument? (usage.subst σ) = some (.array (.extending (.typeVar "A"))) := by
  intro usage σ
  have hc : pairs.IsGeneric := by decide
  have hargs : pairs.Saturates usage := by decide
  have helement : pairs.elementArgument? usage = some (.array (.typeVar "B")) := by decide +kernel
  refine ⟨hc, hargs, helement, ?_⟩
  rw [elementArgument?_subst hc hargs σ, helement]
  rfl

end AssertionWriter.Catalog
