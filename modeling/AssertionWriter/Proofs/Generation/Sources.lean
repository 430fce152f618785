/-
  AssertionWriter.Proofs.Generation.Sources

  Whatever a catalog holds, with the default templates every class and every entry point
  has a source, and no token is left in any of them. The names of members must be those of
  identifiers; all other names and types come from the catalog, and are read strictly.
-/
import AssertionWriter.Proofs.Catalog.RoundTrip
import AssertionWriter.Proofs.EntryPoint.Sources
import AssertionWriter.Proofs.Generation.Plan

namespace AssertionWriter
open Template Text

/-! ## Surfaces of a catalog -/

/-- The surface of a type in a catalog, whichever of its members count. -/
def Surface.IsDescribed (c : Catalog) (s : Surface) : Prop :=
  ∃ policy n, Surface.describe c policy n = .ok s

variable {c : Catalog} {s : Surface}

theorem Surface.IsDescribed.isInline (h : s.IsDescribed c) (hc : c.Readable)
    (hi : c.hasIdentifiers = true) : s.IsInline := by
  obtain ⟨policy, n, hs⟩ := h
  exact isInline_of_describe hc hi hs

theorem Surface.IsDescribed.wellFormed (h : s.IsDescribed c) (hc : c.Readable) :
    s.subject.WellFormed := by
  obtain ⟨policy, n, hs⟩ := h
  obtain ⟨d, hd, -, rfl⟩ := describe_eq_ok hs
  exact (hc d hd).name

/-! ## Two types with one flat name -/

namespace Catalog

/-- A class in another one, with a property. -/
def nestedClass : TypeDecl where
  name := ⟨"p", ["A"], "B"⟩
  methods := [.reading "getName" (.raw ⟨"java.lang", [], "String"⟩)]

/-- A class whose name is that of the other one without what separates its parts. -/
def flatClass : TypeDecl where
  name := ⟨"p", [], "AB"⟩

/-- A catalog of the two. -/
def sameFlatNames : Catalog := .ofList [nestedClass, flatClass]

theorem decls_sameFlatNames : sameFlatNames.decls = [nestedClass, flatClass] := by decide

theorem readable_sameFlatNames : sameFlatNames.Readable := by
  have hnested : QualifiedName.parse? "p.A$B" = some ⟨"p", ["A"], "B"⟩ := by decide
  have hflat : QualifiedName.parse? "p.AB" = some ⟨"p", [], "AB"⟩ := by decide
  have hstring : QualifiedName.parse? "java.lang.String" = some ⟨"java.lang", [], "String"⟩ := by
    decide
  have hmethod : (MethodDecl.reading "getName" (.raw ⟨"java.lang", [], "String"⟩)).Readable := by
    refine ⟨fun t ht => ?_, by simp [MethodDecl.reading], by simp [MethodDecl.reading]⟩
    obtain rfl := Option.some.inj ht
    exact JavaType.readable_raw hstring
  intro d hd
  rw [decls_sameFlatNames, List.mem_cons, List.mem_singleton] at hd
  rcases hd with rfl | rfl
  · refine ⟨QualifiedName.wellFormed_of_parse? hnested, ?_, ?_, ?_, ?_⟩
    · simp [nestedClass]
    · simp [nestedClass]
    · intro m hm
      rw [List.mem_singleton.1 hm]
      exact hmethod
    · simp [nestedClass]
  · refine ⟨QualifiedName.wellFormed_of_parse? hflat, ?_, ?_, ?_, ?_⟩ <;> simp [flatClass]

/-- The catalog is read from its own text. -/
theorem parse_sameFlatNames : parse sameFlatNames.toText = .ok sameFlatNames :=
  parse_toText_of_reread readable_sameFlatNames (by decide)

theorem hasIdentifiers_sameFlatNames : sameFlatNames.hasIdentifiers = true := by decide

theorem describe_sameFlatNames {d : TypeDecl} (hd : d = nestedClass ∨ d = flatClass)
    (policy : DescriptionPolicy) :
    Surface.describe sameFlatNames policy d.name =
      .ok (Surface.ofDeclaration sameFlatNames policy d) := by
  rcases hd with rfl | rfl
  · have hfind : sameFlatNames.find? nestedClass.name = some nestedClass := by decide
    rw [Surface.describe, hfind]
    rfl
  · have hfind : sameFlatNames.find? flatClass.name = some flatClass := by decide
    rw [Surface.describe, hfind]
    rfl

theorem isDescribed_sameFlatNames {d : TypeDecl} (hd : d = nestedClass ∨ d = flatClass)
    (policy : DescriptionPolicy) :
    (Surface.ofDeclaration sameFlatNames policy d).IsDescribed sameFlatNames :=
  ⟨policy, d.name, describe_sameFlatNames hd policy⟩

theorem selectAll_sameFlatNames : sameFlatNames.selectAll = [nestedClass, flatClass] := by
  have heligible : sameFlatNames.decls.filter TypeDecl.isEligible = [nestedClass, flatClass] := by
    decide
  rw [selectAll, heligible, sortByName]
  exact List.mergeSort_of_pairwise (by decide)

end Catalog

namespace GenerationOptions

/-- Options for all types of a catalog. -/
def allTypes : GenerationOptions where
  types := []
  outputDirectory := "out"
  package := none
  hierarchical := false
  entryPoints := []
  templatesDirectory := none
  marker := none
  hiddenFields := false

theorem selection_sameFlatNames {o : GenerationOptions} (ho : o.types = []) :
    o.selection Catalog.sameFlatNames = .ok [Catalog.nestedClass, Catalog.flatClass] := by
  rw [selection, ho, Catalog.selectAll_sameFlatNames]
  rfl

theorem surfaces_sameFlatNames {o : GenerationOptions} (ho : o.types = []) :
    o.surfaces Catalog.sameFlatNames =
      .ok [Surface.ofDeclaration Catalog.sameFlatNames o.policy Catalog.nestedClass,
        Surface.ofDeclaration Catalog.sameFlatNames o.policy Catalog.flatClass] := by
  have hnested := Catalog.describe_sameFlatNames (.inl rfl) o.policy
  have hflat := Catalog.describe_sameFlatNames (.inr rfl) o.policy
  rw [surfaces, selection_sameFlatNames ho]
  simp only [bind, Except.bind, List.mapM_cons, List.mapM_nil, hnested, hflat]
  rfl

end GenerationOptions

/-! ## Tokens -/

/-- A text in which no brace stands right behind a dollar sign, so that it has no tokens. -/
def Template.IsFilled (text : String) : Prop := ¬['$', '\x7b'] <:+: text.toList ∧ tokensIn text = []

theorem Template.IsSourceOf.isFilled {package name text : String}
    (h : IsSourceOf package name text) : IsFilled text := by
  obtain ⟨r, hr, -⟩ := h
  exact ⟨hr.not_infix, tokensIn_eq_nil hr.isApart⟩

theorem Template.isFilled_empty : IsFilled "" := by
  refine ⟨fun h => ?_, rfl⟩
  exact absurd (List.infix_nil.1 h) (by simp)

namespace ClassWriter

variable {w : ClassWriter}

/-- No token is left in the sources of the classes and entry points for a catalog. -/
theorem isFilled_sources {text : String} (hc : Catalog.parse text = .ok c)
    (hi : c.hasIdentifiers = true) (hw : w.IsDefault) :
    (∀ s : Surface, s.IsDescribed c →
      (∃ source, w.flat s = .ok source ∧ IsFilled source) ∧
      ∀ batch, ∃ pair, w.hierarchical s batch = .ok pair ∧
        IsFilled pair.abstractSource ∧ IsFilled pair.concreteSource) ∧
    ∀ ss : List Surface, (∀ s ∈ ss, s.IsDescribed c) → ∀ mode,
      ∃ source, EntryPoint.source w ss mode = .ok source ∧ IsFilled source := by
  have hr := Catalog.readable_of_parse hc
  refine ⟨fun s hs => ⟨?_, fun batch => ?_⟩, fun ss hss mode => ?_⟩
  · obtain ⟨source, hflat, hsource⟩ := hw.flat_eq_ok (hs.isInline hr hi) (hs.wellFormed hr)
    exact ⟨source, hflat, hsource.isFilled⟩
  · obtain ⟨pair, hpair, habstract, hconcrete⟩ :=
      hw.hierarchical_eq_ok (hs.isInline hr hi) (hs.wellFormed hr) batch
    exact ⟨pair, hpair, habstract.isFilled, hconcrete.isFilled⟩
  · by_cases hne : ss = []
    · -- For no types there is no entry point, and the text is empty.
      rw [hne]
      exact ⟨"", rfl, isFilled_empty⟩
    · have hinline : ∀ s ∈ ss, s.IsInline := fun s hs => (hss s hs).isInline hr hi
      obtain ⟨source, name, hentry, hsource, -⟩ := EntryPoint.source_eq_ok hw hinline hne mode
      exact ⟨source, hentry, hsource.isFilled⟩

theorem isFilled_sources_sameFlatNames :
    Catalog.parse Catalog.sameFlatNames.toText = .ok Catalog.sameFlatNames ∧
      Catalog.sameFlatNames.hasIdentifiers = true ∧
      IsDefault ⟨.default, some "gen.code"⟩ ∧
      ∃ source, flat ⟨.default, some "gen.code"⟩
          (Surface.ofDeclaration Catalog.sameFlatNames ⟨.byName, true⟩ Catalog.nestedClass) =
            .ok source ∧ IsFilled source := by
  have hw : IsDefault ⟨.default, some "gen.code"⟩ := by
    refine ⟨rfl, fun package hp => ?_⟩
    obtain rfl := Option.some.inj hp
    decide
  refine ⟨Catalog.parse_sameFlatNames, Catalog.hasIdentifiers_sameFlatNames, hw, ?_⟩
  have hdescribed := Catalog.isDescribed_sameFlatNames (.inl rfl) ⟨.byName, true⟩
  exact ((isFilled_sources Catalog.parse_sameFlatNames Catalog.hasIdentifiers_sameFlatNames
    hw).1 _ hdescribed).1

end ClassWriter
end AssertionWriter
