/-
  AssertionWriter.Proofs.JavaType.Inline

  Types whose texts are inline, whatever package the code is placed in: those of readable
  declarations, the types of elements that are found through the hierarchy, and the
  concrete types that stand for them.
-/
import AssertionWriter.Proofs.Catalog.Readable
import AssertionWriter.Proofs.Naming.Inline
import AssertionWriter.ValueKind

namespace AssertionWriter
open Text

/-! ## Names -/

/-- A name of inline texts. -/
structure QualifiedName.IsInline (n : QualifiedName) : Prop where
  package : Inline n.package
  enclosing : ∀ e ∈ n.enclosing, Inline e
  simple : Inline n.simple

namespace QualifiedName

theorem WellFormed.isInline {n : QualifiedName} (h : n.WellFormed) : n.IsInline := by
  have hsegment : ∀ {s : String}, isSegment s.toList = true → Inline s := fun hs =>
    Inline.of_isNameChar fun c hc => ((isSegment_iff.1 hs).2 c hc).1
  refine ⟨?_, fun e he => hsegment (h.enclosing e he), hsegment h.simple⟩
  obtain ⟨parts, hpackage, hparts⟩ := h.package
  rw [hpackage, Inline.ofList]
  intro c hc
  rcases mem_intercalate hc with hsep | ⟨p, hp, hc⟩
  · rw [List.mem_singleton.1 hsep]
    decide
  · have hpart := isPart_of_isPackagePart (hparts p hp)
    have hname : Inline (String.ofList p) :=
      Inline.of_isNameChar (by simpa using (isPart_iff.1 hpart).2)
    exact Inline.ofList.1 hname c hc

theorem isInline_topLevelIn {package simple : String} (hp : Inline package) (hs : Inline simple) :
    (topLevelIn package simple).IsInline :=
  ⟨hp, fun _ he => absurd he List.not_mem_nil, hs⟩

theorem isInline_object : object.IsInline := isInline_topLevelIn (by decide) (by decide)

theorem IsInline.boxed {n : QualifiedName} (h : n.IsInline) : n.boxed.IsInline := by
  rw [QualifiedName.boxed]
  split
  · next p _ => exact isInline_topLevelIn (by decide) (by cases p <;> decide)
  · exact h

theorem IsInline.outerQualified {n : QualifiedName} (h : n.IsInline) : Inline n.outerQualified := by
  refine Inline.intercalate (by decide) fun s hs => ?_
  rcases List.mem_append.1 hs with hs | hs
  · exact h.enclosing s hs
  · rw [List.mem_singleton.1 hs]
    exact h.simple

theorem inline_qualify {package simple : String} (hp : Inline package) (hs : Inline simple) :
    Inline (qualify package simple) := by
  rw [qualify]
  split
  · exact hs
  · exact (hp.append (by decide)).append hs

theorem IsInline.qualified {n : QualifiedName} (h : n.IsInline) : Inline n.qualified :=
  inline_qualify h.package h.outerQualified

theorem IsInline.referenceFrom {n : QualifiedName} (h : n.IsInline) (context : String) :
    Inline (n.referenceFrom context) := by
  rw [QualifiedName.referenceFrom]
  split
  · exact h.outerQualified
  · exact h.qualified

theorem IsInline.outermost {n : QualifiedName} (h : n.IsInline) : n.outermost.IsInline := by
  obtain ⟨package, enclosing, simple⟩ := n
  cases enclosing with
  | nil => exact h
  | cons outer inner => exact isInline_topLevelIn h.package (h.enclosing outer (by simp))

theorem IsInline.assertClass {n : QualifiedName} (h : n.IsInline) :
    Inline (Naming.assertClass n) := by
  refine Inline.append (Inline.join fun s hs => ?_) (by decide)
  rcases List.mem_append.1 hs with hs | hs
  · exact h.enclosing s hs
  · rw [List.mem_singleton.1 hs]
    exact h.simple

end QualifiedName

/-! ## Types -/

namespace JavaType

mutual
/-- A type of inline names and variables. -/
def IsInline : JavaType → Prop
  | named n as => n.IsInline ∧ AllInline as
  | array c => IsInline c
  | typeVar v => Inline v
  | unbounded => True
  | extending b => IsInline b

/-- All types of a list are inline. -/
def AllInline : List JavaType → Prop
  | [] => True
  | a :: as => IsInline a ∧ AllInline as
end

theorem allInline_iff {as : List JavaType} : AllInline as ↔ ∀ a ∈ as, IsInline a := by
  induction as with
  | nil => simp [AllInline]
  | cons a as ih => simp [AllInline, ih]

mutual
theorem Spelled.isInline : (t : JavaType) → t.Spelled → t.IsInline
  | named _ as, h => ⟨h.1.isInline, AllSpelled.allInline as h.2.2⟩
  | array c, h => Spelled.isInline c h.1
  | typeVar v, h => Inline.of_isNameChar fun c hc => by
      rw [QualifiedName.isNameChar, isNameChar_of_isVariable h hc]
      rfl
  | unbounded, _ => trivial
  | extending b, h => Spelled.isInline b h

theorem AllSpelled.allInline : (as : List JavaType) → AllSpelled as → AllInline as
  | [], _ => trivial
  | a :: as, h => ⟨Spelled.isInline a h.1, AllSpelled.allInline as h.2⟩
end

theorem isInline_arrays (n : Nat) (t : JavaType) : (arrays n t).IsInline ↔ t.IsInline := by
  induction n generalizing t with
  | zero => rfl
  | succ n ih => rw [arrays, ih, IsInline]

theorem Readable.isInline {t : JavaType} (h : t.Readable) : t.IsInline := by
  rcases h with h | ⟨n, name, rfl, hname⟩
  · exact Spelled.isInline t h
  · rw [isInline_arrays]
    exact ⟨hname.isInline, trivial⟩

theorem isInline_object : object.IsInline := ⟨QualifiedName.isInline_object, trivial⟩

mutual
/-- The text of an inline type is inline if the spellings of names are. -/
theorem inline_render {spell : QualifiedName → String}
    (hspell : ∀ n : QualifiedName, n.IsInline → Inline (spell n)) :
    (t : JavaType) → t.IsInline → Inline (t.render spell)
  | named n [], h => hspell n h.1
  | named n (a :: as), h => by
    rw [render]
    have ha := inline_render hspell a h.2.1
    have has := inline_renderMore hspell as h.2.2
    exact ((((hspell n h.1).append (by decide)).append ha).append has).append (by decide)
  | array c, h => (inline_render hspell c h).append (by decide)
  | typeVar _, h => h
  | unbounded, _ => by
    rw [render]
    decide
  | extending b, h => Inline.append (by decide) (inline_render hspell b h)

theorem inline_renderMore {spell : QualifiedName → String}
    (hspell : ∀ n : QualifiedName, n.IsInline → Inline (spell n)) :
    (as : List JavaType) → AllInline as → Inline (renderMore spell as)
  | [], _ => by
    rw [renderMore]
    decide
  | a :: as, h => by
    rw [renderMore]
    have ha := inline_render hspell a h.1
    exact (Inline.append (by decide) ha).append (inline_renderMore hspell as h.2)
end

theorem IsInline.reference {t : JavaType} (h : t.IsInline) (context : String) :
    Inline (t.reference context) :=
  inline_render (fun _ hn => hn.referenceFrom context) t h

theorem IsInline.rawReference {t : JavaType} (h : t.IsInline) (context : String) :
    Inline (t.rawReference context) := by
  induction t using rawReference.induct with
  | case1 n as => exact h.1.referenceFrom context
  | case2 c ih => exact (ih h).append (by decide)
  | case3 | case4 | case5 => exact QualifiedName.isInline_object.referenceFrom context

theorem IsInline.simpleName {t : JavaType} (h : t.IsInline) : Inline t.simpleName := by
  induction t using simpleName.induct with
  | case1 n as => exact h.1.outerQualified
  | case2 c ih => exact (ih h).append (by decide)
  | case3 v => exact h
  | case4 | case5 => exact QualifiedName.isInline_object.simple

mutual
theorem isInline_subst {σ : Bindings} (hσ : ∀ b ∈ σ, b.2.IsInline) :
    (t : JavaType) → t.IsInline → (t.subst σ).IsInline
  | named _ as, h => ⟨h.1, allInline_substAll hσ as h.2⟩
  | array c, h => isInline_subst hσ c h
  | typeVar v, h => by
    rw [subst]
    cases hv : σ.lookup v with
    | none => exact h
    | some t =>
      exact hσ (v, t) (mem_of_lookup hv)
  | unbounded, _ => trivial
  | extending b, h => isInline_subst hσ b h

theorem allInline_substAll {σ : Bindings} (hσ : ∀ b ∈ σ, b.2.IsInline) :
    (as : List JavaType) → AllInline as → AllInline (substAll σ as)
  | [], _ => trivial
  | a :: as, h => ⟨isInline_subst hσ a h.1, allInline_substAll hσ as h.2⟩
end

theorem IsInline.concrete {t : JavaType} (h : t.IsInline) : (ValueKind.concrete t).IsInline := by
  induction t using ValueKind.concrete.induct with
  | case1 n as hall =>
    rw [ValueKind.concrete, if_pos hall]
    exact h
  | case2 n as hall =>
    rw [ValueKind.concrete, if_neg hall]
    exact ⟨h.1, trivial⟩
  | case3 c ih => exact ih h
  | case4 b ih => exact ih h
  | case5 | case6 => exact isInline_object

end JavaType
end AssertionWriter
