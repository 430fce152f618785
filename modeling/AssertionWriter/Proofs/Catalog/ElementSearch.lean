/-
  AssertionWriter.Proofs.Catalog.ElementSearch

  The search for the elements of a usage, as a recursion through the hierarchy. The types
  that have been visited are handed from each usage to the next, so that the recursion ends
  in every hierarchy. Where it has no cycles the recursion would end without them, and then
  they change no answer: a type is met again only if its supertypes gave nothing the first
  time, and whether they give something does not depend on the arguments.
-/
import Mathlib.Data.List.Forall2
import AssertionWriter.Catalog.Elements
import AssertionWriter.Proofs.Catalog.Supertypes
import AssertionWriter.Proofs.JavaType.Substitution

namespace AssertionWriter.Catalog

variable {c : Catalog} {n m : QualifiedName} {d : TypeDecl} {args : List JavaType}
  {usage t : JavaType} {visited : List QualifiedName} {found : Option JavaType}

/-! ## The recursion -/

mutual
/-- Looking at a usage when some types have been visited gives this answer, and then these types
    have been visited. -/
inductive Visits (c : Catalog) :
    List QualifiedName → JavaType → Option JavaType → List QualifiedName → Prop where
  | unnamed {visited : List QualifiedName} {usage : JavaType} (h : usage.name? = none) :
      Visits c visited usage none visited
  | reached {visited : List QualifiedName} {args : List JavaType} :
      Visits c visited (.named iterable args) args.head? visited
  | passed {visited : List QualifiedName} {n : QualifiedName} {args : List JavaType}
      (hn : n ≠ iterable) (h : c.find? n = none ∨ n ∈ visited) :
      Visits c visited (.named n args) (builtInElement? n args) visited
  | declared {visited visited' : List QualifiedName} {n : QualifiedName} {args : List JavaType}
      {d : TypeDecl} {found : Option JavaType} (hn : n ≠ iterable) (hd : c.find? n = some d)
      (hv : n ∉ visited) (above : VisitsAll c (n :: visited) (supertypesAt d args) found visited') :
      Visits c visited (.named n args) (found.or (builtInElement? n args)) visited'

/-- Looking at usages, one after the other until one of them gives an answer. -/
inductive VisitsAll (c : Catalog) :
    List QualifiedName → List JavaType → Option JavaType → List QualifiedName → Prop where
  | nil {visited : List QualifiedName} : VisitsAll c visited [] none visited
  | found {visited visited' : List QualifiedName} {usage t : JavaType} {usages : List JavaType}
      (first : Visits c visited usage (some t) visited') :
      VisitsAll c visited (usage :: usages) (some t) visited'
  | next {visited visited' visited'' : List QualifiedName} {usage : JavaType}
      {usages : List JavaType} {found : Option JavaType}
      (first : Visits c visited usage none visited')
      (rest : VisitsAll c visited' usages found visited'') :
      VisitsAll c visited (usage :: usages) found visited''
end

mutual
/-- The search takes the steps of the recursion, and then the steps that are left. -/
theorem Visits.search_eq {visited visited' : List QualifiedName} {usage : JavaType}
    {found : Option JavaType} (rest : List Search) : c.Visits visited usage found visited' →
      c.search visited (.visit usage :: rest) = found.or (c.search visited' rest)
  | .unnamed h => by
    cases usage with
    | named n args => exact absurd h (by simp [JavaType.name?])
    | array | typeVar | unbounded | extending => rw [search, Option.none_or]; simp
  | .reached => by rw [search, if_pos rfl]
  | .passed hn h => by
    rw [search, if_neg hn]
    split
    · rw [search]
    · next d hd =>
      rw [dif_pos (h.resolve_left (by simp [hd])), search]
  | .declared hn hd hv above => by
    rw [search, if_neg hn]
    split
    · next hnone => simp [hd] at hnone
    · next d' hd' =>
      obtain rfl := Option.some.inj (hd.symm.trans hd')
      -- The built-in fallback waits behind the supertypes, in front of the steps that are left.
      rw [dif_neg hv, above.search_eq, search, Option.or_assoc]

theorem VisitsAll.search_eq {visited visited' : List QualifiedName} {usages : List JavaType}
    {found : Option JavaType} (rest : List Search) : c.VisitsAll visited usages found visited' →
      c.search visited (usages.map .visit ++ rest) = found.or (c.search visited' rest)
  | .nil => by rw [List.map_nil, List.nil_append, Option.none_or]
  | .found first => by
    rw [List.map_cons, List.cons_append, first.search_eq, Option.some_or, Option.some_or]
  | .next first others => by
    rw [List.map_cons, List.cons_append, first.search_eq, Option.none_or, others.search_eq]
end

/-- What the recursion finds is the element. -/
theorem Visits.elementArgument?_eq (h : c.Visits [] usage found visited) :
    c.elementArgument? usage = found := by
  rw [elementArgument?, h.search_eq, search, Option.or_none]

/-! ## The end of the recursion -/

theorem unseen_le_of_subset {names seen seen' : List QualifiedName} (h : seen ⊆ seen') :
    unseen names seen' ≤ unseen names seen := by
  rw [unseen, unseen, ← List.countP_eq_length_filter, ← List.countP_eq_length_filter]
  refine List.countP_mono_left fun n _ hn => ?_
  rw [decide_eq_true_eq] at hn ⊢
  exact fun hmem => hn (h hmem)

/-- Where looking at any one usage ends, whatever else has been visited before, looking at several
    does. -/
theorem exists_visitsAll (usages : List JavaType) (visited : List QualifiedName)
    (h : ∀ visited', visited ⊆ visited' → ∀ usage, ∃ found visited'',
      c.Visits visited' usage found visited'' ∧ visited' ⊆ visited'') :
    ∃ found visited', c.VisitsAll visited usages found visited' ∧ visited ⊆ visited' := by
  induction usages generalizing visited with
  | nil => exact ⟨none, visited, .nil, List.Subset.refl _⟩
  | cons usage usages ih =>
    obtain ⟨found, visited', first, hsub⟩ := h visited (List.Subset.refl _) usage
    cases found with
    | some t => exact ⟨some t, visited', .found first, hsub⟩
    | none =>
      obtain ⟨found, visited'', rest, hsub'⟩ :=
        ih visited' fun w hw => h w (List.Subset.trans hsub hw)
      exact ⟨found, visited'', .next first rest, List.Subset.trans hsub hsub'⟩

/-- The recursion ends in every hierarchy: each type that it goes through is one that is declared,
    and that it has not visited before. -/
theorem exists_visits (c : Catalog) (visited : List QualifiedName) (usage : JavaType) :
    ∃ found visited', c.Visits visited usage found visited' ∧ visited ⊆ visited' := by
  induction hleft : unseen c.names visited using Nat.strong_induction_on
    generalizing visited usage with
  | _ left ih =>
    cases usage with
    | array | typeVar | unbounded | extending =>
      exact ⟨none, visited, .unnamed rfl, List.Subset.refl _⟩
    | named n args =>
      by_cases hn : n = iterable
      · subst hn
        exact ⟨_, visited, .reached, List.Subset.refl _⟩
      by_cases hpassed : c.find? n = none ∨ n ∈ visited
      · exact ⟨_, visited, .passed hn hpassed, List.Subset.refl _⟩
      rw [not_or] at hpassed
      obtain ⟨hdeclared, hv⟩ := hpassed
      obtain ⟨d, hd⟩ := Option.ne_none_iff_exists'.1 hdeclared
      have hmem : n ∈ c.names := by
        rw [← name_of_find? hd]
        exact List.mem_map_of_mem (mem_of_find? hd)
      -- The type is crossed off before its supertypes are looked at, so fewer types are left.
      have hlt := unseen_cons_lt hmem hv
      obtain ⟨found, visited', above, hsub⟩ := exists_visitsAll (c := c) (supertypesAt d args)
        (n :: visited) fun w hw usage => ih _ (by
          have hle : unseen c.names w ≤ unseen c.names (n :: visited) := unseen_le_of_subset hw
          omega) w usage rfl
      exact ⟨_, visited', .declared hn hd hv above,
        List.Subset.trans (List.subset_cons_self n visited) hsub⟩

theorem exists_visits_elementArgument? (c : Catalog) (usage : JavaType) :
    ∃ visited, c.Visits [] usage (c.elementArgument? usage) visited := by
  obtain ⟨found, visited, h, -⟩ := exists_visits c [] usage
  exact ⟨visited, h.elementArgument?_eq ▸ h⟩

/-! ## Without visited types -/

/-- The supertypes, as usages, of the type that is used with these arguments; none if it is not
    declared. -/
def usagesAbove (c : Catalog) (n : QualifiedName) (args : List JavaType) : List JavaType :=
  (c.find? n).elim [] fun d => supertypesAt d args

theorem usagesAbove_eq (hd : c.find? n = some d) : c.usagesAbove n args = supertypesAt d args := by
  rw [usagesAbove, hd, Option.elim_some]

mutual
/-- The same recursion, when it does not keep in mind which types have been visited. -/
inductive Resolves (c : Catalog) : JavaType → Option JavaType → Prop where
  | unnamed {usage : JavaType} (h : usage.name? = none) : Resolves c usage none
  | reached {args : List JavaType} : Resolves c (.named iterable args) args.head?
  | named {n : QualifiedName} {args : List JavaType} {found : Option JavaType} (hn : n ≠ iterable)
      (above : ResolvesFirst c (c.usagesAbove n args) found) :
      Resolves c (.named n args) (found.or (builtInElement? n args))

/-- The answer of the first usage that gives one. -/
inductive ResolvesFirst (c : Catalog) : List JavaType → Option JavaType → Prop where
  | nil : ResolvesFirst c [] none
  | found {usage t : JavaType} {usages : List JavaType} (first : Resolves c usage (some t)) :
      ResolvesFirst c (usage :: usages) (some t)
  | next {usage : JavaType} {usages : List JavaType} {found : Option JavaType}
      (first : Resolves c usage none) (rest : ResolvesFirst c usages found) :
      ResolvesFirst c (usage :: usages) found
end

mutual
/-- The recursion has one answer at most. -/
theorem Resolves.unique {usage : JavaType} {found found' : Option JavaType} :
    c.Resolves usage found → c.Resolves usage found' → found = found'
  | .unnamed h, h' => by
    cases h' with
    | unnamed => rfl
    | reached | named => exact absurd h (by simp [JavaType.name?])
  | .reached, h' => by
    cases h' with
    | unnamed h' => exact absurd h' (by simp [JavaType.name?])
    | reached => rfl
    | named hn => exact absurd rfl hn
  | .named hn above, h' => by
    cases h' with
    | unnamed h' => exact absurd h' (by simp [JavaType.name?])
    | reached => exact absurd rfl hn
    | named _ above' => rw [above.unique above']

theorem ResolvesFirst.unique {usages : List JavaType} {found found' : Option JavaType} :
    c.ResolvesFirst usages found → c.ResolvesFirst usages found' → found = found'
  | .nil, .nil => rfl
  | .found first, h' => by
    cases h' with
    | found first' => exact first.unique first'
    | next first' => exact absurd (first.unique first') (by simp)
  | .next first rest, h' => by
    cases h' with
    | found first' => exact absurd (first.unique first') (by simp)
    | next _ rest' => exact rest.unique rest'
end

/-! ## Types whose supertypes give nothing -/

/-- No declaration extends or implements a type variable. -/
def NoTypeVarAbove (c : Catalog) : Prop :=
  ∀ d ∈ c.decls, ∀ t ∈ d.directSupertypes, t.isTypeVar = false

instance (c : Catalog) : Decidable c.NoTypeVarAbove :=
  inferInstanceAs (Decidable (∀ d ∈ c.decls, ∀ t ∈ d.directSupertypes, t.isTypeVar = false))

/-- Two usages of one name, both with arguments or both without. -/
def Alike (t u : JavaType) : Prop := t.name? = u.name? ∧ (t.args = [] ↔ u.args = [])

theorem alike_subst {σ τ : JavaType.Bindings} (h : t.isTypeVar = false) :
    Alike (t.subst σ) (t.subst τ) := by
  refine ⟨?_, ?_⟩
  · rw [JavaType.name?_subst h, JavaType.name?_subst h]
  · rw [JavaType.args_subst h, JavaType.args_subst h, List.map_eq_nil_iff, List.map_eq_nil_iff]

/-- Usages of a type have usages of the same supertypes above them. -/
theorem NoTypeVarAbove.forall₂_alike (hc : c.NoTypeVarAbove) (n : QualifiedName)
    (args args' : List JavaType) :
    List.Forall₂ Alike (c.usagesAbove n args) (c.usagesAbove n args') := by
  cases hd : c.find? n with
  | none => rw [usagesAbove, usagesAbove, hd]; exact .nil
  | some d =>
    rw [usagesAbove_eq hd, usagesAbove_eq hd, supertypesAt, supertypesAt,
      List.forall₂_map_left_iff, List.forall₂_map_right_iff, List.forall₂_same]
    exact fun t ht => alike_subst (hc d (mem_of_find? hd) t ht)

theorem builtInElement?_eq_none_iff :
    builtInElement? n args = none ↔ n ∈ builtInIterables → args = [] := by
  rw [builtInElement?]
  split <;> simp_all

mutual
/-- A usage gives nothing whatever its arguments are, if only there are as few. -/
theorem Resolves.none_of_alike (hc : c.NoTypeVarAbove) {t u : JavaType}
    {found : Option JavaType} (hu : Alike t u) (hnone : found = none) :
    c.Resolves t found → c.Resolves u none
  | .unnamed h => .unnamed (hu.1 ▸ h)
  | .reached => by
    cases u with
    | named n args =>
      obtain rfl := Option.some.inj hu.1
      have hargs : args = [] := hu.2.1 (List.head?_eq_none_iff.1 hnone)
      subst hargs
      exact .reached
    | array | typeVar | unbounded | extending => exact .unnamed rfl
  | .named hn above => by
    obtain ⟨habove, hown⟩ := Option.or_eq_none_iff.1 hnone
    cases u with
    | named n args =>
      obtain rfl := Option.some.inj hu.1
      have hfirst := above.none_of_alike hc (hc.forall₂_alike _ _ args) habove
      have hbuiltIn : builtInElement? _ args = none :=
        builtInElement?_eq_none_iff.2 fun hmem =>
          hu.2.1 (builtInElement?_eq_none_iff.1 hown hmem)
      have hresolves := Resolves.named hn hfirst
      rwa [hbuiltIn] at hresolves
    | array | typeVar | unbounded | extending => exact .unnamed rfl

theorem ResolvesFirst.none_of_alike (hc : c.NoTypeVarAbove) {ts us : List JavaType}
    {found : Option JavaType} (hus : List.Forall₂ Alike ts us) (hnone : found = none) :
    c.ResolvesFirst ts found → c.ResolvesFirst us none
  | .nil => by
    cases hus
    exact .nil
  | .found _ => absurd hnone (by simp)
  | .next first rest => by
    cases hus with
    | cons hu hus => exact .next (first.none_of_alike hc hu rfl) (rest.none_of_alike hc hus hnone)
end

/-- Whatever the arguments of a usage, the supertypes of its type give nothing. -/
def IsBarren (c : Catalog) (n : QualifiedName) : Prop :=
  ∀ args, c.ResolvesFirst (c.usagesAbove n args) none

/-- The types visited do not cut off an answer: those among them that lie above the usage, or that
    it names, are barren. -/
def IsHarmless (c : Catalog) (visited : List QualifiedName) (usage : JavaType) : Prop :=
  ∀ n ∈ usage.name?, ∀ m ∈ visited, Relation.ReflTransGen c.Extends n m → c.IsBarren m

/-- The usages above a usage name types that its type extends. -/
theorem extends_of_mem_supertypesAt (hc : c.NoTypeVarAbove) (hd : c.find? n = some d)
    (ht : t ∈ supertypesAt d args) (hm : m ∈ t.name?) : c.Extends n m := by
  obtain ⟨u, hu, rfl⟩ := List.mem_map.1 ht
  rw [JavaType.name?_subst (hc d (mem_of_find? hd) u hu)] at hm
  refine ⟨u, ?_, hm⟩
  rw [directSupertypes, hd]
  exact hu

/-- In a hierarchy without cycles the type itself may be visited before its supertypes. -/
theorem IsHarmless.above (hc : c.NoTypeVarAbove) (hac : c.IsAcyclic)
    (h : c.IsHarmless visited (.named n args)) (hd : c.find? n = some d)
    (ht : t ∈ supertypesAt d args) : c.IsHarmless (n :: visited) t := by
  intro m hm k hk hway
  have hstep := extends_of_mem_supertypesAt hc hd ht hm
  rcases List.mem_cons.1 hk with rfl | hk
  · -- From a supertype back to the type itself would be a cycle.
    exact absurd (Relation.TransGen.head' hstep hway) (hac k)
  · exact h n rfl k hk (.head hstep hway)

mutual
/-- While the types visited are harmless the answers are those of the plain recursion, and if
    nothing is found only barren types are visited. -/
theorem Visits.resolves (hc : c.NoTypeVarAbove) (hac : c.IsAcyclic)
    {visited visited' : List QualifiedName} {usage : JavaType} {found : Option JavaType}
    (hharmless : c.IsHarmless visited usage) : c.Visits visited usage found visited' →
      c.Resolves usage found ∧ (found = none → ∀ n ∈ visited', n ∈ visited ∨ c.IsBarren n)
  | .unnamed h => ⟨.unnamed h, fun _ n hn => .inl hn⟩
  | .reached => ⟨.reached, fun _ n hn => .inl hn⟩
  | @Visits.passed _ _ n args hn h => by
    have hbarren : c.ResolvesFirst (c.usagesAbove n args) none := by
      rcases h with hnone | hv
      · rw [usagesAbove, hnone]
        exact .nil
      · exact hharmless n rfl n hv .refl args
    have hresolves := Resolves.named hn hbarren
    rw [Option.none_or] at hresolves
    exact ⟨hresolves, fun _ m hm => .inl hm⟩
  | .declared hn hd hv above => by
    obtain ⟨hfirst, hbarren⟩ := above.resolvesFirst hc hac fun t ht => hharmless.above hc hac hd ht
    rw [← usagesAbove_eq hd] at hfirst
    refine ⟨.named hn hfirst, fun hnone m hm => ?_⟩
    obtain ⟨rfl, -⟩ := Option.or_eq_none_iff.1 hnone
    rcases hbarren rfl m hm with hm | hm
    · rcases List.mem_cons.1 hm with rfl | hm
      · -- The type itself is barren, since its supertypes have just given nothing.
        refine .inr fun args' => ?_
        exact hfirst.none_of_alike hc (hc.forall₂_alike m _ args') rfl
      · exact .inl hm
    · exact .inr hm

theorem VisitsAll.resolvesFirst (hc : c.NoTypeVarAbove) (hac : c.IsAcyclic)
    {visited visited' : List QualifiedName} {usages : List JavaType} {found : Option JavaType}
    (hharmless : ∀ usage ∈ usages, c.IsHarmless visited usage) :
    c.VisitsAll visited usages found visited' →
      c.ResolvesFirst usages found ∧ (found = none → ∀ n ∈ visited', n ∈ visited ∨ c.IsBarren n)
  | .nil => ⟨.nil, fun _ n hn => .inl hn⟩
  | .found first => by
    obtain ⟨hfirst, -⟩ := first.resolves hc hac (hharmless _ (List.mem_cons_self ..))
    exact ⟨.found hfirst, fun hnone => absurd hnone (by simp)⟩
  | .next first rest => by
    obtain ⟨hfirst, hbarren⟩ := first.resolves hc hac (hharmless _ (List.mem_cons_self ..))
    -- What the first usage has left behind is as harmless as what it found.
    obtain ⟨hrest, hbarren'⟩ := rest.resolvesFirst hc hac fun usage husage n hn m hm hway => by
      rcases hbarren rfl m hm with hm | hm
      · exact hharmless usage (List.mem_cons_of_mem _ husage) n hn m hm hway
      · exact hm
    refine ⟨.next hfirst hrest, fun hnone n hn => ?_⟩
    exact (hbarren' hnone n hn).elim (hbarren rfl n) .inr
end

/-- In a hierarchy without cycles the element is what the recursion finds when it does not keep in
    mind which types have been visited. In every hierarchy the recursion that does so ends, with
    the element as its answer. -/
theorem resolves_iff_elementArgument? (c : Catalog) :
    (c.IsAcyclic → c.NoTypeVarAbove →
      ∀ usage found, c.Resolves usage found ↔ c.elementArgument? usage = found) ∧
    ∀ usage, ∃ visited, c.Visits [] usage (c.elementArgument? usage) visited := by
  refine ⟨fun hac hc usage found => ?_, c.exists_visits_elementArgument?⟩
  obtain ⟨visited, hvisits⟩ := c.exists_visits_elementArgument? usage
  obtain ⟨hresolves, -⟩ := hvisits.resolves hc hac fun n _ m hm => absurd hm List.not_mem_nil
  constructor
  · exact fun h => hresolves.unique h
  · rintro rfl
    exact hresolves

/-! ## A type that is met twice -/

/-- An interface without elements. -/
def titled : TypeDecl where
  name := ⟨"a", [], "Titled"⟩
  kind := .interface

/-- A generic container that has a title too. -/
def shelf : TypeDecl where
  name := ⟨"a", [], "Shelf"⟩
  typeParameters := ["E"]
  interfaces := [.raw titled.name, .named ⟨"java.util", [], "List"⟩ [.typeVar "E"]]

/-- A container of which the title comes first. -/
def bookcase : TypeDecl where
  name := ⟨"a", [], "Bookcase"⟩
  interfaces := [.raw titled.name, .named shelf.name [.raw ⟨"a", [], "Book"⟩]]

/-- A catalog of the three. -/
def furniture : Catalog := .ofList [titled, shelf, bookcase]

theorem isAcyclic_furniture : furniture.IsAcyclic := by
  refine isAcyclic_of_rank (fun n =>
    if n = bookcase.name then 0 else if n = shelf.name then 1 else 2) ?_
  decide

/-- The interface is passed over when the walk meets it again. -/
theorem resolves_iff_elementArgument?_furniture :
    furniture.IsAcyclic ∧ furniture.NoTypeVarAbove ∧
      furniture.elementArgument? (.raw bookcase.name) = some (.raw ⟨"a", [], "Book"⟩) ∧
      furniture.Resolves (.raw bookcase.name) (some (.raw ⟨"a", [], "Book"⟩)) := by
  have hc : furniture.NoTypeVarAbove := by decide
  have helement : furniture.elementArgument? (.raw bookcase.name) =
      some (.raw ⟨"a", [], "Book"⟩) := by decide +kernel
  exact ⟨isAcyclic_furniture, hc, helement,
    ((resolves_iff_elementArgument? furniture).1 isAcyclic_furniture hc _ _).2 helement⟩

end AssertionWriter.Catalog
