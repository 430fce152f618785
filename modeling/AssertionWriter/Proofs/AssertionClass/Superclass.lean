/-
  AssertionWriter.Proofs.AssertionClass.Superclass

  What abstract assertion classes extend, as it is read back from their sources. It is the
  abstract class of the parent just if the batch has the parent, and else a class of the
  framework. No other source declares an abstract class.
-/
import AssertionWriter.Proofs.AssertionClass.Sources
import AssertionWriter.Proofs.QualifiedName.Order

namespace AssertionWriter

namespace Template
open Text QualifiedName

/-! ## Reading -/

/-- The superclass in the line that declares an abstract class: the name in front of the arguments
    that the line ends with. -/
def superclass? (line : List Char) : Option String :=
  (after? "public abstract class ".toList line).bind fun rest =>
    (after? "<S, A> \x7b\n".toList.reverse rest.reverse).map fun front =>
      String.ofList (front.takeWhile isNameChar).reverse

/-- What the abstract classes of a text extend, in order. -/
def superclassesIn (text : String) : List String :=
  (linesWithEnds text.toList).filterMap superclass?

theorem superclass?_eq_none {line : List Char} (h : line.head? ≠ some 'p') :
    superclass? line = none := by
  have hlead : after? "public abstract class ".toList line = none := after?_eq_none_of_head?_ne h
  rw [superclass?, hlead]
  rfl

theorem superclass?_eq_some {super : String} (h : ∀ c ∈ super.toList, isNameChar c = true)
    (front : List Char) :
    superclass? ("public abstract class ".toList ++
      (front ++ ' ' :: (super.toList ++ "<S, A> \x7b\n".toList))) = some super := by
  have hlead : ∀ s, after? "public abstract class ".toList ("public abstract class ".toList ++ s) =
      some s := fun s => after?_eq_some_iff.2 rfl
  have hend : (front ++ ' ' :: (super.toList ++ "<S, A> \x7b\n".toList)).reverse =
      "<S, A> \x7b\n".toList.reverse ++ (super.toList.reverse ++ ' ' :: front.reverse) := by simp
  -- Read from its end, the name ends at the blank in front of it.
  have hname : (super.toList.reverse ++ ' ' :: front.reverse).takeWhile isNameChar =
      super.toList.reverse := by
    rw [List.takeWhile_append_of_pos fun c hc => h c (List.mem_reverse.1 hc),
      List.takeWhile_cons_of_neg (by decide), List.append_nil]
  rw [superclass?, hlead, Option.bind_some, hend, after?_eq_some_iff.2 rfl, Option.map_some, hname,
    List.reverse_reverse, String.ofList_toList]

namespace Rendering.IsSource

variable {r : Rendering} {package text : String}

/-- A class that is not abstract extends no class in this way. -/
theorem superclassesIn_eq_nil (h : r.IsSource package text)
    (hlead : r.frame.lead = "public class ") : superclassesIn text = [] := by
  obtain ⟨more, -, -, -, hlines⟩ :=
    h.filterMap_lines (fun _ => superclass?_eq_none) fun _ => rfl
  rw [superclassesIn, hlines, hlead, List.append_assoc]
  rfl

end Rendering.IsSource

/-! ## Frames -/

/-- The line that declares an abstract class. -/
def ClassLayout.abstractDeclaration : Line := [
  "public abstract class ", .hole .assertClass, "<S extends ", .hole .assertClass,
  "<S, A>, A extends ", .hole .subject, "> extends ", .hole .superclass, "<S, A> \x7b"]

/-- Whether a template has a line that starts like the declaration of an abstract class. -/
def Layout.declaresAbstract (l : Layout) : Bool :=
  l.any fun
    | .text lead :: _ => lead = "public abstract class "
    | _ => false

theorem Frame.WellFormed.lead_eq {f : Frame} (hf : f.WellFormed)
    (h : f.layout.declaresAbstract = false) : f.lead = "public class " := by
  refine hf.lead.resolve_right fun hlead => ?_
  have hmem : f.declaration ∈ f.layout := by simp [Frame.layout, Frame.inner]
  have hany := List.any_eq_false.1 h f.declaration hmem
  exact hany (by simp [Frame.declaration, hlead.1])

theorem ClassLayout.declaresAbstract_eq_false :
    flat.declaresAbstract = false ∧ comparable.declaresAbstract = false ∧
      concrete.declaresAbstract = false := by decide

theorem ClassLayout.abstractDeclaration_mem : abstractDeclaration ∈ inheritable := by decide

variable {value? : Hole → Option String} {name subject super : String}

/-- The line with values for its holes. -/
theorem ClassLayout.joined_abstractDeclaration (hname : value? .assertClass = some name)
    (hsubject : value? .subject = some subject) (hsuper : value? .superclass = some super) :
    joined (abstractDeclaration.map (Segment.fillBy value?)) =
      "public abstract class ".toList ++ ((name.toList ++ "<S extends ".toList ++ name.toList ++
        "<S, A>, A extends ".toList ++ subject.toList ++ "> extends".toList) ++
          ' ' :: (super.toList ++ "<S, A> \x7b".toList)) := by
  have hextends : "> extends ".toList = "> extends".toList ++ [' '] := by decide
  simp only [abstractDeclaration, List.map_cons, List.map_nil, Segment.fillBy, hname, hsubject,
    hsuper, Option.elim_some, joined_cons, joined_nil, Segment.toText, hextends, List.append_assoc,
    List.append_nil, List.singleton_append]

/-- The superclass is read from the line that declares the class. -/
theorem Rendering.IsSource.superclassesIn_eq {r : Rendering} {package text : String}
    (h : r.IsSource package text)
    (hdeclaration : r.frame.declaration = ClassLayout.abstractDeclaration)
    (hname : r.value? .assertClass = some name) (hsubject : r.value? .subject = some subject)
    (hsuper : r.value? .superclass = some super) (hinline : Inline name ∧ Inline subject)
    (hchars : ∀ c ∈ super.toList, isNameChar c = true) : superclassesIn text = [super] := by
  have hline := ClassLayout.joined_abstractDeclaration hname hsubject hsuper
  have hsingle : '\n' ∉ joined (r.frame.declaration.map (Segment.fillBy r.value?)) := by
    simp [hdeclaration, hline, hinline.1.not_mem, hinline.2.not_mem,
      (Inline.of_isNameChar hchars).not_mem]
  obtain ⟨more, lines, -, hfirst, hlines⟩ :=
    h.filterMap_lines (fun _ => superclass?_eq_none) fun _ => rfl
  rw [r.declaration_eq, linesWithEnds_line hsingle] at hfirst
  have hend : "<S, A> \x7b\n".toList = "<S, A> \x7b".toList ++ ['\n'] := by decide
  have hread := superclass?_eq_some hchars (name.toList ++ "<S extends ".toList ++ name.toList ++
    "<S, A>, A extends ".toList ++ subject.toList ++ "> extends".toList)
  rw [superclassesIn, hlines, ← (List.cons.inj hfirst).1, hdeclaration, hline]
  rw [hend] at hread
  simp only [List.append_assoc, List.cons_append] at hread ⊢
  rw [hread, Option.toList_some]

end Template

namespace ClassWriter
open Template Text QualifiedName

variable {w : ClassWriter} {s : Surface} {batch : List QualifiedName}

/-! ## Superclasses -/

/-- What the abstract class for a surface is to extend, in a batch: the abstract class of the parent
    if the batch has it, and else one of the framework. -/
def IsSuperclass (batch : List QualifiedName) (s : Surface) (super : String) : Prop :=
  (∃ parent ∈ s.parent, parent ∈ batch ∧ super = Naming.abstractAssertClass parent) ∨
    (∀ parent ∈ s.parent, parent ∉ batch) ∧ (super = objectAssert ∨ super = comparableAssert)

theorem isSuperclass_superclass (hparent : ∀ parent ∈ s.parent, parent.WellFormed)
    (hbatch : ∀ n ∈ batch, n.WellFormed) : IsSuperclass batch s (w.superclass s batch).1 := by
  -- The batch is searched by the order of names, which tells any two names apart.
  have hany : ∀ parent ∈ s.parent,
      (batch.any fun n => compare n parent = .eq) = true ↔ parent ∈ batch := by
    intro parent hp
    rw [List.any_eq_true]
    constructor
    · rintro ⟨n, hn, hcompare⟩
      rwa [← (compare_eq_iff (hbatch n hn) (hparent parent hp)).1 (of_decide_eq_true hcompare)]
    · intro hmem
      exact ⟨parent, hmem, decide_eq_true ((compare_eq_iff (hparent parent hp)
        (hparent parent hp)).2 rfl)⟩
  rw [superclass]
  split
  · next parent hfilter =>
    obtain ⟨hp, hfound⟩ := Option.filter_eq_some_iff.1 hfilter
    exact .inl ⟨parent, hp, (hany parent hp).1 hfound, rfl⟩
  · next hfilter =>
    refine .inr ⟨fun parent hp hmem => ?_, ?_⟩
    · exact Option.filter_eq_none_iff.1 hfilter parent hp ((hany parent hp).2 hmem)
    · cases s.isComparable with
      | false => exact .inl rfl
      | true => exact .inr rfl

theorem IsSuperclass.isNameChar {super : String} (h : IsSuperclass batch s super)
    (hbatch : ∀ n ∈ batch, n.WellFormed) : ∀ c ∈ super.toList, isNameChar c = true := by
  have hobject : objectAssert.toList.all QualifiedName.isNameChar = true := by decide
  have hcomparable : comparableAssert.toList.all QualifiedName.isNameChar = true := by
    decide
  rcases h with ⟨parent, -, hmem, rfl⟩ | ⟨-, rfl | rfl⟩
  · exact isNameChar_abstractAssertClass (s := .bare parent) (hbatch parent hmem)
  · exact List.all_eq_true.1 hobject
  · exact List.all_eq_true.1 hcomparable

/-! ## Sources -/

/-- No class whose objects are made directly is abstract. -/
theorem IsDefault.superclassesIn_complete (hw : w.IsDefault) (hs : s.IsInline)
    (hn : s.subject.WellFormed) {r : Role} (hr : r ∈ Role.ofClass) (hne : r ≠ .abstractAssertClass)
    {properties : List Property} (hp : ∀ p ∈ properties, p.IsInline) {body : String}
    (h : w.body s r properties = .ok body) :
    superclassesIn (w.complete s (concreteEntries s) none body) = [] := by
  obtain ⟨body', f, hbody, hlayout, -, -, hsource⟩ := hw.exists_rendering hs hr hp
    (areEntries_concrete hs hne) (assertClass_ne_empty s) (isNameChar_assertClass hn)
    inline_of_mem_none
  obtain rfl := Except.ok.inj (h.symm.trans hbody)
  obtain ⟨hflat, hcomparable, hconcrete⟩ := ClassLayout.declaresAbstract_eq_false
  refine hsource.superclassesIn_eq_nil (hsource.frame.lead_eq ?_)
  change f.layout.declaresAbstract = false
  rw [hlayout, Role.layoutFor]
  split
  · exact hcomparable
  · have hcases : r = .assertClass ∨ r = .hierarchicalAssertClass :=
      (by simpa [Role.ofClass] using hr : _ ∨ _ ∨ _).imp_right fun h => h.resolve_right hne
    rcases hcases with rfl | rfl
    · exact hflat
    · exact hconcrete

/-- An abstract class extends the superclass that it is given. -/
theorem IsDefault.superclassesIn_abstract (hw : w.IsDefault) (hs : s.IsInline)
    (hn : s.subject.WellFormed) {super : String} (hsuper : Inline super)
    (hchars : ∀ c ∈ super.toList, isNameChar c = true) {parentImport : Option String}
    (himport : ∀ name ∈ parentImport, Inline name) {body : String}
    (h : w.body s .abstractAssertClass s.declaredProperties = .ok body) :
    superclassesIn (w.complete s [(.assertClass, s.abstractAssertClass), (.superclass, super),
      (.selfType, "S"), (.self, "myself")] parentImport body) = [super] := by
  have he := areEntries_abstract hs hsuper
  have hne : s.abstractAssertClass ≠ "" := by
    simp [Surface.abstractAssertClass, Naming.abstractAssertClass, Naming.assertClass]
  obtain ⟨body', f, hbody, hlayout, -, -, hsource⟩ := hw.exists_rendering hs (by decide)
    hs.declaredProperties he hne (isNameChar_abstractAssertClass hn) himport
  obtain rfl := Except.ok.inj (h.symm.trans hbody)
  rw [Role.layoutFor_of_ne (by decide)] at hlayout
  have hdeclaration : f.declaration = ClassLayout.abstractDeclaration :=
    hsource.frame.declaration_eq (hlayout ▸ ClassLayout.abstractDeclaration_mem) (by decide)
      (by decide)
  have hvalues := get?_classFilling w s [(.assertClass, s.abstractAssertClass),
    (.superclass, super), (.selfType, "S"), (.self, "myself")]
  refine hsource.superclassesIn_eq hdeclaration (value?_rendering he.get?_assertClass)
    (value?_rendering (hvalues .subject)) (value?_rendering (hvalues .superclass))
    ⟨?_, hs.subject.outerQualified⟩ hchars
  exact (he.inline (.assertClass, s.abstractAssertClass) (by simp)).2

/-- The source of a class that holds all methods itself declares no abstract class. -/
theorem IsDefault.superclassesIn_flat (hw : w.IsDefault) (hs : s.IsInline)
    (hn : s.subject.WellFormed) {text : String} (h : w.flat s = .ok text) :
    superclassesIn text = [] := by
  obtain ⟨body, hbody, h⟩ := bind_eq_ok_iff.1 h
  obtain rfl := Except.ok.inj h
  exact hw.superclassesIn_complete hs hn (by decide) (by decide) hs.properties hbody

/-- The abstract class extends what it is to extend, and the concrete class is not abstract. -/
theorem IsDefault.superclassesIn_hierarchical (hw : w.IsDefault) (hs : s.IsInline)
    (hn : s.subject.WellFormed) (hparent : ∀ parent ∈ s.parent, parent.WellFormed)
    (hbatch : ∀ n ∈ batch, n.WellFormed) {pair : ClassPair}
    (h : w.hierarchical s batch = .ok pair) :
    superclassesIn pair.abstractSource = [(w.superclass s batch).1] ∧
      superclassesIn pair.concreteSource = [] := by
  obtain ⟨body, hbody, h⟩ := bind_eq_ok_iff.1 h
  obtain ⟨body', hbody', h⟩ := bind_eq_ok_iff.1 h
  obtain rfl := Except.ok.inj h
  obtain ⟨hsuper, himport⟩ := hw.inline_superclass hs batch
  have hchars := (isSuperclass_superclass (w := w) hparent hbatch).isNameChar hbatch
  exact ⟨hw.superclassesIn_abstract hs hn hsuper hchars himport hbody,
    hw.superclassesIn_complete hs hn (by decide) (by decide) isInline_of_mem_nil hbody'⟩

end ClassWriter
end AssertionWriter
