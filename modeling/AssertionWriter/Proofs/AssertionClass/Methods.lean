/-
  AssertionWriter.Proofs.AssertionClass.Methods

  The methods of a property with the default templates: the values fit into the holes, and
  the holes that are left are those that the class fills.
-/
import AssertionWriter.AssertionClass.PropertyMethods
import AssertionWriter.Proofs.Surface.Inline
import AssertionWriter.Proofs.Template.Default
import AssertionWriter.Proofs.Template.Rendering

namespace AssertionWriter
open Template Text

/-! ## Values -/

namespace Property

variable {p : Property}

theorem inline_classLiteral {t : JavaType} (h : t.IsInline) (package : String) :
    Inline (classLiteral t package) := by
  cases t with
  | named n as =>
    rw [classLiteral]
    split
    · exact h.1.boxed.referenceFrom package
    · exact h.rawReference package
  | array | typeVar | unbounded | extending => exact h.rawReference package

theorem IsInline.reading (h : p.IsInline) (package : String) : Inline (p.reading package) := by
  have hactual : Inline ("actual." ++ p.member) := Inline.append (by decide) h.member
  rw [Property.reading]
  split
  · exact hactual.append (by decide)
  · split
    · exact hactual
    · have hcall : Inline ("FieldSupport.EXTRACTION.fieldValue(\"" ++ p.member) :=
        Inline.append (by decide) h.member
      exact ((hcall.append (by decide)).append (inline_classLiteral h.type package)).append
        (by decide)

theorem IsInline.throwsClause (h : p.IsInline) (package : String) :
    Inline (p.throwsClause package) := by
  rw [Property.throwsClause]
  split
  · decide
  · refine Inline.append (by decide) (Inline.intercalate (by decide) fun s hs => ?_)
    obtain ⟨n, hn, rfl⟩ := List.mem_map.1 hs
    exact (h.failures n hn).referenceFrom package

/-- Each line of the documentation starts with a blank. -/
theorem IsInline.exists_throwsDoc_eq (h : p.IsInline) (package : String) :
    ∃ ss, p.throwsDoc package = String.join ss ∧ ∀ s ∈ ss, ∃ t, s = "\n " ++ t ∧ Inline t := by
  refine ⟨_, rfl, fun s hs => ?_⟩
  obtain ⟨n, hn, rfl⟩ := List.mem_map.1 hs
  have hlead : "\n   * @throws " = "\n " ++ "  * @throws " := by decide
  have hthrows : Inline ("  * @throws " ++ n.referenceFrom package) :=
    Inline.append (by decide) ((h.failures n hn).referenceFrom package)
  have hif := (hthrows.append (by decide : Inline " if ")).append (h.reading package)
  refine ⟨_, ?_, hif.append (by decide : Inline " throws one.")⟩
  rw [hlead]
  simp only [String.append_assoc]

theorem IsInline.inline_kindEntries (h : p.IsInline) (package : String) :
    ∀ e ∈ p.kindEntries package, e.1.isBlock = false ∧ Inline e.2 := by
  have hpredicate : Inline p.predicate := Naming.inline_predicateOf h.member
  have hnegation : Inline p.negation := Naming.inline_contrary hpredicate
  have helement : ∀ {t : JavaType}, p.kind.element? = some t → t.IsInline := fun ht => h.kind _ ht
  rw [kindEntries]
  split
  · next t hkind =>
    have ht := helement (by rw [hkind]; rfl)
    simp only [List.mem_cons, List.not_mem_nil, or_false, forall_eq_or_imp, forall_eq]
    exact ⟨⟨rfl, ht.reference package⟩, rfl, Naming.inline_valueAssertClass ht.simpleName⟩
  · next t hkind =>
    have ht := helement (by rw [hkind]; rfl)
    simp only [List.mem_cons, List.not_mem_nil, or_false, forall_eq_or_imp, forall_eq]
    exact ⟨⟨rfl, ht.reference package⟩, rfl, Naming.inline_valueAssertClass ht.simpleName⟩
  · simp only [List.mem_cons, List.not_mem_nil, or_false, forall_eq_or_imp, forall_eq]
    exact ⟨⟨rfl, Naming.inline_inProse hpredicate⟩, ⟨rfl, Naming.inline_inProse hnegation⟩,
      ⟨rfl, Naming.inline_asDemand hpredicate⟩, ⟨rfl, Naming.inline_asDemand hnegation⟩,
      ⟨rfl, hpredicate⟩, rfl, hnegation⟩
  · exact fun e he => absurd he List.not_mem_nil

/-- The values for a property are inline, but for the documentation of its exceptions. -/
theorem IsInline.inline_filling (h : p.IsInline) (package : String) :
    ∀ e ∈ (p.filling package).entries,
      e.1.isBlock = false ∧ (Inline e.2 ∨ e.2 = p.throwsDoc package) := by
  have hentries : ∀ e ∈ [
      (Hole.propertyCapital, Naming.capitalized p.name),
      (.parameter, Naming.parameterName p.name),
      (.propertyType, p.type.reference package),
      (.propertyAssertClass, Naming.valueAssertClass p.type.simpleName),
      (.propertySimpleType, p.type.simpleName),
      (.reading, p.reading package),
      (.throws, p.throwsClause package),
      (.throwsDoc, p.throwsDoc package)],
      e.1.isBlock = false ∧ (Inline e.2 ∨ e.2 = p.throwsDoc package) := by
    simp only [List.mem_cons, List.not_mem_nil, or_false, forall_eq_or_imp, forall_eq]
    exact ⟨⟨rfl, .inl (Naming.inline_capitalized h.name)⟩,
      ⟨rfl, .inl (Naming.inline_parameterName h.name)⟩,
      ⟨rfl, .inl (h.type.reference package)⟩,
      ⟨rfl, .inl (Naming.inline_valueAssertClass h.type.simpleName)⟩,
      ⟨rfl, .inl h.type.simpleName⟩, ⟨rfl, .inl (h.reading package)⟩,
      ⟨rfl, .inl (h.throwsClause package)⟩, rfl, .inr trivial⟩
  intro e he
  rcases List.mem_append.1 (Filling.mem_of_mem_ofList he) with he | he
  · rcases List.mem_append.1 he with he | he
    · exact hentries e he
    · exact (h.inline_kindEntries package e he).imp_right .inl
  · rw [List.mem_singleton.1 he]
    exact ⟨rfl, .inl h.name⟩

/-- The values for a property fit into the holes of its methods. -/
theorem IsInline.fits (h : p.IsInline) (package : String) : (p.filling package).Fits := by
  intro e he
  obtain ⟨hblock, hinline | hdoc⟩ := h.inline_filling package e he
  · exact Fits.of_inline hblock hinline
  · obtain ⟨ss, hss, hlines⟩ := h.exists_throwsDoc_eq package
    rw [hdoc, hss]
    exact Fits.join hblock hlines

/-- In the values for a property, nothing but a blank stands behind a line feed. -/
theorem IsInline.areApart_filling (h : p.IsInline) (package : String) {bad : Char}
    (hbad : bad ≠ ' ') : AreApart '\n' bad (p.filling package).get? := by
  intro k v hv
  obtain ⟨hblock, hinline | hdoc⟩ :=
    h.inline_filling package (k, v) (Filling.get?_eq_some_iff.1 hv)
  · rw [hblock]
    exact isApart_false_of_not_mem hinline.not_mem.2
  · obtain ⟨ss, hss, hlines⟩ := h.exists_throwsDoc_eq package
    have hvalue : v = String.join ss := Eq.trans hdoc hss
    rw [hblock, hvalue, String.toList_join]
    exact isApart_flatMap_of_blank hbad hlines

end Property

/-! ## Holes -/

namespace Template.Role

/-- The roles of the templates for the methods of properties. -/
def ofProperty : List Role := [
  has, hasForArray, hasForIterable, hasForRealNumber, hasForRealNumberWrapper, hasForWholeNumber,
  hasForWholeNumberWrapper, hasForChar, hasForCharacter, is, isWrapper, isWithoutNegation,
  isWrapperWithoutNegation]

/-- The holes that depend on the kind of the value. -/
def kindHoles : Role → List Hole
  | hasForArray | hasForIterable => [.elementType, .elementAssertClass]
  | is | isWrapper | isWithoutNegation | isWrapperWithoutNegation =>
    [.predicateProse, .negationProse, .predicateDemand, .negationDemand, .predicate, .negation]
  | _ => []

/-- The holes that every property fills. -/
def propertyHoles : List Hole := [.propertyCapital, .parameter, .propertyType,
  .propertyAssertClass, .propertySimpleType, .reading, .throws, .throwsDoc, .property]

/-- The holes that the class fills. -/
def classOwned : List Hole := [.subject, .selfType, .self]

theorem mem_holes_of_ofProperty {r : Role} (hr : r ∈ ofProperty) {h : Hole}
    (hh : h ∈ holesOf r.layout.segments) : h ∈ r.kindHoles ++ propertyHoles ∨ h ∈ classOwned := by
  have hall : (ofProperty.all fun r => (holesOf r.layout.segments).all fun h =>
      h ∈ r.kindHoles ++ propertyHoles || h ∈ classOwned) = true := by decide
  simpa using List.all_eq_true.1 (List.all_eq_true.1 hall r hr) h hh

theorem isFrame_of_mem_ofProperty {r : Role} (hr : r ∈ ofProperty) : r.isFrame = false := by
  have hall : (ofProperty.all fun r => !r.isFrame) = true := by decide
  simpa using List.all_eq_true.1 hall r hr

end Template.Role

namespace Property

/-- The role of a property is one for methods, and its values are those that the role needs. -/
theorem role_spec (p : Property) (s : Surface) (package : String) :
    p.role s ∈ Role.ofProperty ∧ (p.role s).kindHoles = (p.kindEntries package).map (·.1) := by
  -- The kind of the value decides on both, and for a predicate whether there is an opposite.
  cases hkind : p.kind with
  | predicate boxed =>
    cases boxed <;> cases hopposite : p.hasOpposite s <;>
      simp only [role, kindEntries, hkind, hopposite] <;> exact ⟨by decide, rfl⟩
  | realNumber boxed | wholeNumber boxed | character boxed =>
    cases boxed <;> simp only [role, kindEntries, hkind] <;> exact ⟨by decide, rfl⟩
  | array t | enumerable t | plain =>
    simp only [role, kindEntries, hkind]
    exact ⟨by decide, rfl⟩

/-- The lines of the methods of a property, with the holes that the class fills. -/
def methodLines (p : Property) (s : Surface) (package : String) : Layout :=
  (p.role s).layout.fillBy (p.filling package).get?

theorem mem_holesOf_methodLines {p : Property} {s : Surface} {package : String} {h : Hole}
    (hh : h ∈ holesOf (p.methodLines s package).segments) : h ∈ Role.classOwned := by
  obtain ⟨hr, hkind⟩ := p.role_spec s package
  rw [methodLines, Layout.segments_fillBy, mem_holesOf_fillBy, filling,
    Filling.get?_ofList_eq_none_iff, List.map_append, List.map_append, ← hkind] at hh
  refine (Role.mem_holes_of_ofProperty hr hh.1).resolve_left fun hmem => hh.2 ?_
  -- The name of the property comes last, behind the values that depend on the kind.
  rcases List.mem_append.1 hmem with hmem | hmem
  · exact List.mem_append_left _ (List.mem_append_right _ hmem)
  · rcases List.mem_append.1 (show h ∈ Role.propertyHoles.dropLast ++ [.property] from hmem) with
      hmem | hmem
    · exact List.mem_append_left _ (List.mem_append_left _ hmem)
    · exact List.mem_append_right _ hmem

theorem IsInline.isSealed_methodLines {p : Property} (h : p.IsInline) (s : Surface)
    (package : String) : ∀ line ∈ p.methodLines s package, line.IsSealed :=
  Layout.isSealed_of_mem_fillBy
    (Role.isSealed_of_mem_layout (Role.isFrame_of_mem_ofProperty (p.role_spec s package).1))
    (h.fits package).get?

/-- No line of the methods starts with the letter that imports start with. -/
theorem IsInline.isSealed_import_methodLines {p : Property} (h : p.IsInline) (s : Surface)
    (package : String) :
    ∀ line ∈ p.methodLines s package, isSealed '\n' 'i' true line = true := by
  intro line hline
  obtain ⟨line, hmem, rfl⟩ := List.mem_map.1 hline
  have hframe := Role.isFrame_of_mem_ofProperty (p.role_spec s package).1
  exact isSealed_fillBy (h.areApart_filling package (by decide))
    (Role.spec_of_mem_layout hframe line hmem).1.2

/-- With the default templates the methods of a property are these lines. -/
theorem IsInline.toList_fill {p : Property} (h : p.IsInline) (s : Surface) (package : String) :
    ((p.filling package).fill (p.role s).body).toList =
      joined (p.methodLines s package).segments := by
  have hframe := Role.isFrame_of_mem_ofProperty (p.role_spec s package).1
  refine (h.fits package).toList_fill (fun line hline => ?_) (p.role s).layout.toList_toText
  exact (Role.isSealed_of_mem_layout hframe line hline).sealed

end Property
end AssertionWriter
