/-
  AssertionWriter.Proofs.AssertionClass.Predicates

  The assertions that an assertion class has about the predicates of its subject. Each
  predicate has one with its name, and one with the name of the contrary unless another
  predicate stands for that. So both can be asserted of every predicate; which assertions
  of two predicates meet in one name is said exactly.
-/
import AssertionWriter.AssertionClass.PropertyMethods
import AssertionWriter.Proofs.Naming.Contrary
import AssertionWriter.Proofs.Surface.Inline
import AssertionWriter.Proofs.Template.Segments
import AssertionWriter.Template.Default

namespace AssertionWriter

theorem ValueKind.exists_eq_predicate {k : ValueKind} (h : k.isPredicate = true) :
    ∃ boxed, k = .predicate boxed := by
  cases k with
  | predicate boxed => exact ⟨boxed, rfl⟩
  | _ => exact absurd h Bool.false_ne_true

namespace Property
open Template

/-! ## Assertions about predicates -/

/-- Whether the template for the property has a method for the contrary too. -/
def assertsContrary (p : Property) (s : Surface) : Bool :=
  p.role s = .is || p.role s = .isWrapper

/-- The names of the assertions about a predicate. -/
def predicateMethods (p : Property) (s : Surface) : List String :=
  if p.kind.isPredicate then
    p.predicate :: if p.assertsContrary s then [p.negation] else []
  else []

variable {p q : Property} {s : Surface}

/-- The contrary of whatever is said of a member starts with a verb, so a member of that name
    stands for it as it is, and no member stands for its own contrary. -/
theorem hasOpposite_eq_true_iff :
    p.hasOpposite s = true ↔
      ∃ q ∈ s.properties, q.kind.isPredicate = true ∧ q.predicate = p.negation := by
  simp only [hasOpposite, List.any_eq_true, Bool.and_eq_true, Bool.or_eq_true, decide_eq_true_eq]
  refine exists_congr fun q => and_congr_right fun _ => ?_
  constructor
  · rintro ⟨⟨hkind, -⟩, hmember | hpredicate⟩
    · refine ⟨hkind, ?_⟩
      rw [predicate, hmember]
      exact Naming.predicateOf_eq_self (Naming.isPredicate_contrary_predicateOf p.member)
    · exact ⟨hkind, hpredicate⟩
  · rintro ⟨hkind, hpredicate⟩
    refine ⟨⟨hkind, fun hmember => ?_⟩, .inr hpredicate⟩
    rw [negation, predicate, hmember] at hpredicate
    exact Naming.contrary_ne p.predicate hpredicate.symm

theorem assertsContrary_eq (hp : p.kind.isPredicate = true) :
    p.assertsContrary s = !p.hasOpposite s := by
  obtain ⟨boxed, hkind⟩ := ValueKind.exists_eq_predicate hp
  rw [assertsContrary, role, hkind]
  cases boxed <;> cases p.hasOpposite s <;> rfl

theorem mem_predicateMethods (hp : p.kind.isPredicate = true) {name : String} :
    name ∈ p.predicateMethods s ↔
      name = p.predicate ∨ p.hasOpposite s = false ∧ name = p.negation := by
  rw [predicateMethods, if_pos hp, assertsContrary_eq hp, List.mem_cons]
  cases p.hasOpposite s <;> simp

/-! ## The methods of the templates -/

/-- The line of a template that declares the assertion named by a hole. -/
def declarationOf (name : Hole) : Line :=
  ["  public ", Hole.selfType, " ", name, "()", Hole.throws, " \x7b"]

/-- The hole for the name of the assertion that a line of a template declares. -/
def declaredBy? (line : Line) : Option Hole := Hole.all.find? fun h => line = declarationOf h

/-- What the default template for the property declares in code placed in `package`: the values of
    the holes that name assertions. -/
def declaredMethods (p : Property) (s : Surface) (package : String) : List (Option String) :=
  ((p.role s).layout.filterMap declaredBy?).map (p.filling package).get?

/-- With the default templates, the assertions about a predicate are those that are declared. -/
theorem declaredMethods_eq (hp : p.kind.isPredicate = true) (package : String) :
    p.declaredMethods s package = (p.predicateMethods s).map some := by
  obtain ⟨boxed, hkind⟩ := ValueKind.exists_eq_predicate hp
  have hholes : (p.role s).layout.filterMap declaredBy? =
      .predicate :: if p.assertsContrary s then [.negation] else [] := by
    rw [assertsContrary_eq hp, role, hkind]
    cases boxed <;> cases p.hasOpposite s <;> decide
  have hvalues : (p.filling package).get? .predicate = some p.predicate ∧
      (p.filling package).get? .negation = some p.negation := by
    rw [filling, Filling.get?_ofList, Filling.get?_ofList, kindEntries, hkind]
    exact ⟨rfl, rfl⟩
  rw [declaredMethods, hholes, predicateMethods, if_pos hp]
  cases p.assertsContrary s <;> simp [hvalues]

/-! ## Both can be asserted -/

/-- Of every predicate it can be asserted that it holds and that its contrary does, if by the
    assertion of another predicate. -/
theorem exists_mem_predicateMethods (hmem : p ∈ s.properties) (hp : p.kind.isPredicate = true) :
    (∃ q ∈ s.properties, p.predicate ∈ q.predicateMethods s) ∧
      ∃ q ∈ s.properties, p.negation ∈ q.predicateMethods s := by
  refine ⟨⟨p, hmem, (mem_predicateMethods hp).2 (.inl rfl)⟩, ?_⟩
  cases hopposite : p.hasOpposite s with
  | false => exact ⟨p, hmem, (mem_predicateMethods hp).2 (.inr ⟨hopposite, rfl⟩)⟩
  | true =>
    obtain ⟨q, hq, hkind, hpredicate⟩ := hasOpposite_eq_true_iff.1 hopposite
    exact ⟨q, hq, (mem_predicateMethods hkind).2 (.inl hpredicate.symm)⟩

/-- A class whose two accessors are the contraries of each other. -/
def gate : TypeDecl where
  name := ⟨"a", [], "Gate"⟩
  methods := [.reading "isOpen" (.raw ⟨"", [], "boolean"⟩),
    .reading "isNotOpen" (.raw ⟨"", [], "boolean"⟩)]

/-- The surface of the class, in a catalog without other types. -/
def gateSurface : Surface := .ofDeclaration (.ofList [gate]) {} gate

/-- What the one accessor says. -/
def isOpen : Property :=
  ⟨"open", "isOpen", .raw ⟨"", [], "boolean"⟩, .predicate false, .accessor []⟩

/-- What the other accessor says. -/
def isNotOpen : Property := { isOpen with name := "notOpen", member := "isNotOpen" }

theorem exists_mem_predicateMethods_isOpen :
    isOpen ∈ gateSurface.properties ∧ isOpen.kind.isPredicate = true ∧
      (∃ q ∈ gateSurface.properties, isOpen.predicate ∈ q.predicateMethods gateSurface) ∧
      ∃ q ∈ gateSurface.properties, isOpen.negation ∈ q.predicateMethods gateSurface := by
  have hmem : isOpen ∈ gateSurface.properties := by decide +kernel
  exact ⟨hmem, rfl, exists_mem_predicateMethods hmem rfl⟩

/-! ## Assertions that meet -/

/-- Two predicates have no assertion of one name exactly if they are not the same in name, and,
    where they have the same contrary, another predicate stands for the contrary of one of them. -/
theorem predicateMethods_apart_iff (hp : p ∈ s.properties) (hq : q ∈ s.properties)
    (hpkind : p.kind.isPredicate = true) (hqkind : q.kind.isPredicate = true) :
    (∀ name ∈ p.predicateMethods s, name ∉ q.predicateMethods s) ↔
      p.predicate ≠ q.predicate ∧
        (p.negation = q.negation → p.hasOpposite s = true ∨ q.hasOpposite s = true) := by
  simp only [mem_predicateMethods hpkind, mem_predicateMethods hqkind]
  constructor
  · intro hapart
    refine ⟨fun heq => hapart _ (.inl rfl) (.inl heq), fun heq => ?_⟩
    cases hpo : p.hasOpposite s with
    | true => exact .inl rfl
    | false =>
      cases hqo : q.hasOpposite s with
      | true => exact .inr rfl
      | false => exact absurd (.inr ⟨hqo, heq⟩) (hapart _ (.inr ⟨hpo, rfl⟩))
  · rintro ⟨hpredicate, hnegation⟩ name (rfl | ⟨hpo, rfl⟩) (heq | ⟨hqo, heq⟩)
    · exact hpredicate heq
    · -- The one stands for the contrary of the other, which then has no assertion of its own.
      rw [hasOpposite_eq_true_iff.2 ⟨p, hp, hpkind, heq⟩] at hqo
      exact absurd hqo (by decide)
    · rw [hasOpposite_eq_true_iff.2 ⟨q, hq, hqkind, heq.symm⟩] at hpo
      exact absurd hpo (by decide)
    · rw [hpo, hqo] at hnegation
      exact absurd (hnegation heq) (by decide)

theorem predicateMethods_apart_iff_contraries :
    isOpen ∈ gateSurface.properties ∧ isNotOpen ∈ gateSurface.properties ∧
      isOpen.kind.isPredicate = true ∧ isNotOpen.kind.isPredicate = true ∧
      ((∀ name ∈ isOpen.predicateMethods gateSurface,
          name ∉ isNotOpen.predicateMethods gateSurface) ↔
        isOpen.predicate ≠ isNotOpen.predicate ∧
          (isOpen.negation = isNotOpen.negation →
            isOpen.hasOpposite gateSurface = true ∨ isNotOpen.hasOpposite gateSurface = true)) := by
  have hopen : isOpen ∈ gateSurface.properties := by decide +kernel
  have hnot : isNotOpen ∈ gateSurface.properties := by decide +kernel
  exact ⟨hopen, hnot, rfl, rfl, predicateMethods_apart_iff hopen hnot rfl rfl⟩

/-- A class with two open fields of which the same is said. -/
def valve : TypeDecl where
  name := ⟨"a", [], "Valve"⟩
  fields := [⟨"open", .raw ⟨"", [], "boolean"⟩, .toAll, false⟩,
    ⟨"isOpen", .raw ⟨"", [], "boolean"⟩, .toAll, false⟩]

/-- The surface of the class, in a catalog without other types. -/
def valveSurface : Surface := .ofDeclaration (.ofList [valve]) {} valve

/-- Fields are not compared with each other, so both have all the assertions, and the templates
    declare each of them twice. -/
theorem exists_predicateMethods_eq :
    ∃ s, Surface.describe (.ofList [valve]) {} valve.name = .ok s ∧
      ∃ p ∈ s.properties, ∃ q ∈ s.properties, p ≠ q ∧
        p.predicateMethods s = ["isOpen", "isNotOpen"] ∧
        q.predicateMethods s = ["isOpen", "isNotOpen"] ∧
        ∀ package, p.declaredMethods s package = [some "isOpen", some "isNotOpen"] ∧
          q.declaredMethods s package = [some "isOpen", some "isNotOpen"] := by
  have hfind : (Catalog.ofList [valve]).find? valve.name = some valve := by decide
  refine ⟨valveSurface, Surface.describe_eq_ok_iff.2 ⟨valve, hfind, rfl, rfl⟩, ?_⟩
  have hmeet : ∃ p ∈ valveSurface.properties, ∃ q ∈ valveSurface.properties, p ≠ q ∧
      p.kind.isPredicate = true ∧ q.kind.isPredicate = true ∧
      p.predicateMethods valveSurface = ["isOpen", "isNotOpen"] ∧
      q.predicateMethods valveSurface = ["isOpen", "isNotOpen"] := by
    decide +kernel
  obtain ⟨p, hp, q, hq, hne, hpkind, hqkind, hpmethods, hqmethods⟩ := hmeet
  refine ⟨p, hp, q, hq, hne, hpmethods, hqmethods, fun package => ⟨?_, ?_⟩⟩
  · rw [declaredMethods_eq hpkind, hpmethods]
    rfl
  · rw [declaredMethods_eq hqkind, hqmethods]
    rfl

end Property
end AssertionWriter
