/-
  AssertionWriter.Proofs.AssertionClass.Sources

  The sources of assertion classes with the default templates. The frame and the methods
  make up one template of sealed lines, of which the class fills every hole; so each class
  has a source, and this is one of the class in its package.
-/
import AssertionWriter.Proofs.AssertionClass.Imports
import AssertionWriter.Proofs.AssertionClass.Methods

namespace AssertionWriter
open Template Text QualifiedName

/-! ## Packages -/

/-- Whether a package is a sequence of identifiers with dots; the default one is. -/
def QualifiedName.isDotted (package : String) : Bool :=
  package.toList.all fun c => isNameChar c || c = '.'

theorem QualifiedName.inline_of_isDotted {package : String} (h : isDotted package = true) :
    Inline package := by
  intro c hc
  have hchar := List.all_eq_true.1 h c hc
  rw [Bool.or_eq_true, decide_eq_true_eq] at hchar
  rcases hchar with hchar | rfl
  · have hname : Inline (String.singleton c) :=
      Inline.of_isNameChar (by simpa using hchar)
    exact hname c (by simp)
  · decide

namespace ClassWriter

/-- Writers with the default templates and a dotted package, if there is one. -/
structure IsDefault (w : ClassWriter) : Prop where
  templates : w.templates = .default
  package : ∀ package ∈ w.package, isDotted package = true

variable {w : ClassWriter} {s : Surface}

theorem IsDefault.template (hw : w.IsDefault) (r : Role) : w.template r = .ok r.body := by
  rw [ClassWriter.template, hw.templates]
  rfl

/-- All templates are there, so neither a frame nor the methods of a property can fail. -/
theorem IsDefault.frame_eq_ok (hw : w.IsDefault) (s : Surface) (r : Role) :
    w.frame s r = .ok (adaptPackage (s.targetPackage w.package) (adaptSuperclass s r.body)) := by
  rw [frame, hw.template]
  rfl

theorem IsDefault.mapM_methods (hw : w.IsDefault) (s : Surface) (properties : List Property) :
    properties.mapM (w.methods s) = .ok (properties.map fun p =>
      (p.filling (s.targetPackage w.package)).fill (p.role s).body) := by
  have hpure : w.methods s = fun p => pure
      ((p.filling (s.targetPackage w.package)).fill (p.role s).body) := by
    funext p
    rw [methods, hw.template]
    rfl
  rw [hpure, List.mapM_pure]
  rfl

theorem IsDefault.inline_targetPackage (hw : w.IsDefault) (hs : s.IsInline) :
    Inline (s.targetPackage w.package) := by
  rw [Surface.targetPackage]
  cases hp : w.package with
  | none => exact hs.subject.package
  | some package => exact inline_of_isDotted (hw.package package hp)

/-! ## Bodies -/

/-- The methods of some properties, and the end of the class. -/
def restLines (s : Surface) (package : String) (properties : List Property) : Layout :=
  (properties.flatMap fun p => p.methodLines s package) ++ ([[.text "\x7d"]] : Layout)

theorem isSealed_restLines {package : String} {properties : List Property}
    (hp : ∀ p ∈ properties, p.IsInline) :
    ∀ line ∈ restLines s package properties, line.IsSealed := by
  intro line hline
  rcases List.mem_append.1 hline with hline | hline
  · obtain ⟨p, hmem, hline⟩ := List.mem_flatMap.1 hline
    exact (hp p hmem).isSealed_methodLines s package line hline
  · rw [List.mem_singleton.1 hline]
    exact ⟨by decide, by decide⟩

theorem mem_holesOf_restLines {package : String} {properties : List Property} {h : Hole}
    (hh : h ∈ holesOf (restLines s package properties).segments) : h ∈ Role.classOwned := by
  obtain ⟨line, hline, hh⟩ := Layout.mem_holesOf_segments.1 hh
  rcases List.mem_append.1 hline with hline | hline
  · obtain ⟨p, -, hline⟩ := List.mem_flatMap.1 hline
    exact Property.mem_holesOf_methodLines (Layout.mem_holesOf_segments.2 ⟨line, hline, hh⟩)
  · rw [List.mem_singleton.1 hline] at hh
    exact absurd hh (by simp [holesOf])

/-- The text of these lines is that of the methods, one after the other, and the end. -/
theorem joined_restLines {package : String} {properties : List Property}
    (hp : ∀ p ∈ properties, p.IsInline) :
    joined (restLines s package properties).segments =
      (String.join (properties.map fun p => (p.filling package).fill (p.role s).body)).toList ++
        classEnd.toList := by
  have hmethods : joined (Layout.segments (properties.flatMap fun p => p.methodLines s package)) =
      (String.join (properties.map fun p => (p.filling package).fill (p.role s).body)).toList := by
    induction properties with
    | nil => rfl
    | cons p properties ih =>
      rw [List.flatMap_cons, Layout.segments_append, joined_append,
        ih fun q hq => hp q (List.mem_cons_of_mem _ hq), ← (hp p (by simp)).toList_fill s package,
        List.map_cons, String.join_cons, String.toList_append]
  rw [restLines, Layout.segments_append, joined_append, hmethods]
  rfl

/-- A frame with the methods of some properties, as the lines of a template. -/
theorem IsDefault.body_eq_ok (hw : w.IsDefault) {r : Role} (hr : r ∈ Role.ofClass)
    {properties : List Property} (hp : ∀ p ∈ properties, p.IsInline) :
    ∃ (f : Frame) (text : String), w.body s r properties = .ok text ∧ f.WellFormed ∧
      f.layout = r.layoutFor s ∧
      f.name = .hole .assertClass ∧ (∀ h ∈ holesOf f.layout.segments, h ∈ r.classHoles) ∧
      text.toList = joined (Layout.segments
        ((if (s.targetPackage w.package).isEmpty then f.inner else f.layout) ++
          restLines s (s.targetPackage w.package) properties)) := by
  obtain ⟨f, hf, hshape, hname, hlayout, hholes⟩ := exists_frame_of_adaptSuperclass s hr
  have htext := hf.toList_adaptPackage hlayout (s.targetPackage w.package)
  have hbody : w.body s r properties =
      .ok (adaptPackage (s.targetPackage w.package) (adaptSuperclass s r.body) ++
        String.join (properties.map fun p =>
          (p.filling (s.targetPackage w.package)).fill (p.role s).body) ++ classEnd) := by
    rw [body, hw.frame_eq_ok, hw.mapM_methods]
    rfl
  refine ⟨f, _, hbody, hf, hshape, hname, hholes, ?_⟩
  rw [Layout.segments_append, joined_append, joined_restLines hp, ← htext, String.append_assoc,
    String.toList_append, String.toList_append]

/-! ## Classes -/

/-- The values for the holes of a class. -/
def classFilling (w : ClassWriter) (s : Surface) (entries : List (Hole × String)) : Filling :=
  .ofList ((.package, s.targetPackage w.package) :: (.subject, s.subject.outerQualified) :: entries)

/-- The imports of a class with a text. -/
def importsOf (w : ClassWriter) (s : Surface) (parentImport : Option String) (text : String) :
    Imports :=
  let imports := ((Imports.empty (s.targetPackage w.package)).addType s.subject).2.addHelpers text
  parentImport.elim imports fun name => (imports.addName name).2

theorem complete_eq (w : ClassWriter) (s : Surface) (entries : List (Hole × String))
    (parentImport : Option String) (body : String) :
    w.complete s entries parentImport body =
      (Filling.ofList [(.imports,
        (w.importsOf s parentImport ((w.classFilling s entries).fill body)).render)]).fill
        ((w.classFilling s entries).fill body) := rfl

theorem allInline_importsOf (hs : s.IsInline) {parentImport : Option String}
    (hparent : ∀ name ∈ parentImport, Inline name) (text : String) :
    (w.importsOf s parentImport text).AllInline := by
  have hhelpers := ((Imports.allInline_empty (s.targetPackage w.package)).addType
    hs.subject).addHelpers text
  cases parentImport with
  | none => exact hhelpers
  | some name => exact hhelpers.addName (hparent name rfl)

theorem fits_imports (hs : s.IsInline) {parentImport : Option String}
    (hparent : ∀ name ∈ parentImport, Inline name) (text : String) :
    Filling.Fits (.ofList [(.imports, (w.importsOf s parentImport text).render)]) := by
  intro e hmem
  rw [List.mem_singleton.1 (Filling.mem_of_mem_ofList hmem)]
  exact (allInline_importsOf hs hparent text).fits_render

/-- Values for the holes of a class that are inline, and what they have to be values for. -/
structure AreEntries (r : Role) (name : String) (entries : List (Hole × String)) : Prop where
  inline : ∀ e ∈ entries, e.1.isBlock = false ∧ Inline e.2
  keys : ∀ h ∈ r.classHoles ++ Role.classOwned,
    h = .package ∨ h = .imports ∨ h = .subject ∨ h ∈ entries.map (·.1)
  noPackage : Hole.package ∉ entries.map (·.1)
  assertClass : entries.reverse.lookup .assertClass = some name

variable {r : Role} {name : String} {entries : List (Hole × String)}

/-- The values of the class itself come before those that every class has. -/
theorem get?_classFilling (w : ClassWriter) (s : Surface) (entries : List (Hole × String))
    (h : Hole) : (w.classFilling s entries).get? h = (entries.reverse.lookup h).or
      ([(.subject, s.subject.outerQualified), (.package, s.targetPackage w.package)].lookup h) := by
  rw [classFilling, Filling.get?_ofList, List.reverse_cons, List.reverse_cons, List.append_assoc,
    List.lookup_append]
  rfl

theorem AreEntries.get?_package (he : AreEntries r name entries) :
    (w.classFilling s entries).get? .package = some (s.targetPackage w.package) := by
  have hnone := Filling.get?_ofList_eq_none_iff.2 he.noPackage
  rw [Filling.get?_ofList] at hnone
  rw [get?_classFilling, hnone]
  rfl

theorem AreEntries.get?_assertClass (he : AreEntries r name entries) :
    (w.classFilling s entries).get? .assertClass = some name := by
  rw [get?_classFilling, he.assertClass]
  rfl

theorem IsDefault.inline_classFilling (hw : w.IsDefault) (hs : s.IsInline)
    (he : AreEntries r name entries) :
    ∀ e ∈ (w.classFilling s entries).entries, e.1.isBlock = false ∧ Inline e.2 := by
  intro e hmem
  have hmem := Filling.mem_of_mem_ofList hmem
  rw [List.mem_cons, List.mem_cons] at hmem
  rcases hmem with rfl | rfl | hmem
  · exact ⟨rfl, hw.inline_targetPackage hs⟩
  · exact ⟨rfl, hs.subject.outerQualified⟩
  · exact he.inline e hmem

theorem IsDefault.fits_classFilling (hw : w.IsDefault) (hs : s.IsInline)
    (he : AreEntries r name entries) : (w.classFilling s entries).Fits := by
  intro e hmem
  obtain ⟨hblock, hinline⟩ := hw.inline_classFilling hs he e hmem
  exact Fits.of_inline hblock hinline

/-- Filling the holes of a class, and then those for its imports, leaves no hole. -/
theorem AreEntries.get?_ne_none (he : AreEntries r name entries) {imports : String} {h : Hole}
    (hh : h ∈ r.classHoles ++ Role.classOwned) :
    ((w.classFilling s entries).get? h).or ((Filling.ofList [(.imports, imports)]).get? h) ≠
      none := by
  rw [Ne, Option.or_eq_none_iff, classFilling, Filling.get?_ofList_eq_none_iff,
    Filling.get?_ofList_eq_none_iff]
  rintro ⟨hclass, himports⟩
  simp only [List.map_cons, List.map_nil, List.mem_cons, List.not_mem_nil, or_false, not_or]
    at hclass himports
  rcases he.keys h hh with rfl | rfl | rfl | hmem
  · exact hclass.1 rfl
  · exact himports rfl
  · exact hclass.2.1 rfl
  · exact hclass.2.2 hmem

/-- The frame and the methods of a class, with the values of the class and those for its
    imports. -/
def rendering (w : ClassWriter) (s : Surface) (entries : List (Hole × String)) (f : Frame)
    (properties : List Property) (imports : String) : Rendering where
  frame := f
  rest := restLines s (s.targetPackage w.package) properties
  value? h :=
    ((w.classFilling s entries).get? h).or ((Filling.ofList [(.imports, imports)]).get? h)

variable {f : Frame} {properties : List Property} {imports : String}

theorem value?_rendering {h : Hole} {value : String}
    (hv : (w.classFilling s entries).get? h = some value) :
    (w.rendering s entries f properties imports).value? h = some value :=
  Option.or_eq_some_iff.2 (.inl hv)

theorem AreEntries.joined_name (he : AreEntries r name entries) (hf : f.name = .hole .assertClass) :
    joined [(w.rendering s entries f properties imports).frame.name.fillBy
      (w.rendering s entries f properties imports).value?] = name.toList := by
  have hhole : (w.rendering s entries f properties imports).frame.name = .hole .assertClass := hf
  rw [hhole, Segment.fillBy, value?_rendering he.get?_assertClass]
  simp [Segment.toText]

/-- A name that is made of the characters of names is that of the class. -/
theorem AreEntries.className_rendering (he : AreEntries r name entries)
    (hf : f.name = .hole .assertClass) (hchars : ∀ c ∈ name.toList, isNameChar c = true) :
    (w.rendering s entries f properties imports).className = name := by
  have htake : (name.toList ++ []).takeWhile isNameChar = name.toList ++ [] :=
    List.takeWhile_append_of_pos hchars
  rw [List.append_nil] at htake
  rw [Rendering.className, he.joined_name hf, htake, String.ofList_toList]

theorem AreEntries.named_rendering (he : AreEntries r name entries)
    (hf : f.name = .hole .assertClass) (hname : name ≠ "")
    (hchars : ∀ c ∈ name.toList, isNameChar c = true) :
    (joined [(w.rendering s entries f properties imports).frame.name.fillBy
      (w.rendering s entries f properties imports).value?]).head?.any isNameChar = true := by
  rw [he.joined_name hf]
  cases hc : name.toList with
  | nil => exact absurd (String.toList_inj.1 hc) hname
  | cons c cs => simpa using hchars c (by simp [hc])

/-- A class that is completed has a source, made from the frame of its kind. The imports are told
    from the text in which they are not filled in yet. -/
theorem IsDefault.exists_rendering (hw : w.IsDefault) (hs : s.IsInline)
    (hr : r ∈ Role.ofClass) (hp : ∀ p ∈ properties, p.IsInline) (he : AreEntries r name entries)
    (hname : name ≠ "") (hchars : ∀ c ∈ name.toList, isNameChar c = true)
    {parentImport : Option String} (hparent : ∀ name ∈ parentImport, Inline name) :
    ∃ (body : String) (f : Frame), w.body s r properties = .ok body ∧
      f.layout = r.layoutFor s ∧ f.name = .hole .assertClass ∧
      ((w.classFilling s entries).fill body).toList =
        joined (Layout.segments (Layout.fillBy (w.classFilling s entries).get?
          ((if (s.targetPackage w.package).isEmpty then f.inner else f.layout) ++
            restLines s (s.targetPackage w.package) properties))) ∧
      (w.rendering s entries f properties
        (w.importsOf s parentImport ((w.classFilling s entries).fill body)).render).IsSource
        (s.targetPackage w.package) (w.complete s entries parentImport body) := by
  obtain ⟨f, body, hbody, hf, hshape, hhole, hholes, htext⟩ := hw.body_eq_ok (s := s) hr hp
  have hfits := hw.fits_classFilling hs he
  have himports := fits_imports hs hparent (w := w) ((w.classFilling s entries).fill body)
  have hsealed : ∀ line ∈ restLines s (s.targetPackage w.package) properties, line.IsSealed :=
    isSealed_restLines hp
  have hlines : ∀ line ∈ (if (s.targetPackage w.package).isEmpty then f.inner else f.layout) ++
      restLines s (s.targetPackage w.package) properties, isSealed '$' '\x7b' false line = true :=
    Rendering.isSealed_of_mem_lines (r := w.rendering s entries f properties "") hf hsealed
  refine ⟨body, f, hbody, hshape, hhole, hfits.toList_fill hlines htext, ?_⟩
  rw [complete_eq]
  generalize (w.importsOf s parentImport _).render = imports at himports ⊢
  refine {
    frame := hf
    rest := hsealed
    fits := ?fits
    full := ?full
    declared := value?_rendering he.get?_package
    inline := hw.inline_targetPackage hs
    named := he.named_rendering hhole hname hchars
    toList_eq := ?text }
  case fits =>
    intro h v hv
    rcases Option.or_eq_some_iff.1 hv with hv | ⟨-, hv⟩
    · exact hfits.get? h v hv
    · exact himports.get? h v hv
  case full =>
    intro h hh
    refine he.get?_ne_none ?_
    rcases Rendering.mem_holesOf_lines hh with hh | hh
    · exact List.mem_append_left _ (hholes h hh)
    · exact List.mem_append_right _ (mem_holesOf_restLines hh)
  case text =>
    -- The holes of the class are filled first, and then those for the imports.
    exact hfits.toList_fill_fill himports hlines htext

theorem IsDefault.isSourceOf_complete (hw : w.IsDefault) (hs : s.IsInline)
    (hr : r ∈ Role.ofClass) (hp : ∀ p ∈ properties, p.IsInline) (he : AreEntries r name entries)
    (hname : name ≠ "") (hchars : ∀ c ∈ name.toList, isNameChar c = true)
    {parentImport : Option String} (hparent : ∀ name ∈ parentImport, Inline name) :
    ∃ body, w.body s r properties = .ok body ∧
      IsSourceOf (s.targetPackage w.package) name (w.complete s entries parentImport body) := by
  obtain ⟨body, f, hbody, -, hhole, -, hsource⟩ :=
    hw.exists_rendering hs hr hp he hname hchars hparent
  exact ⟨body, hbody, _, hsource, he.className_rendering hhole hchars⟩

/-- The values for a class whose objects are made directly. -/
theorem areEntries_concrete (hs : s.IsInline) (hr : r ≠ .abstractAssertClass) :
    AreEntries r s.assertClass (concreteEntries s) where
  inline := by
    simp only [concreteEntries, List.mem_cons, List.not_mem_nil, or_false, forall_eq_or_imp,
      forall_eq]
    exact ⟨⟨rfl, hs.subject.assertClass⟩, ⟨rfl, hs.subject.assertClass⟩, rfl, by decide⟩
  keys := by
    rw [Role.classHoles, if_neg hr]
    simp only [concreteEntries, List.map_cons, List.map_nil]
    decide
  noPackage := by
    simp only [concreteEntries, List.map_cons, List.map_nil]
    decide
  assertClass := rfl

/-- The values for an abstract class. -/
theorem areEntries_abstract (hs : s.IsInline) {superclass : String} (hsuper : Inline superclass) :
    AreEntries .abstractAssertClass s.abstractAssertClass [
      (.assertClass, s.abstractAssertClass), (.superclass, superclass), (.selfType, "S"),
      (.self, "myself")] where
  inline := by
    simp only [List.mem_cons, List.not_mem_nil, or_false, forall_eq_or_imp, forall_eq]
    exact ⟨⟨rfl, Inline.append (by decide) hs.subject.assertClass⟩, ⟨rfl, hsuper⟩,
      ⟨rfl, by decide⟩, rfl, by decide⟩
  keys := by
    simp only [List.map_cons, List.map_nil]
    decide
  noPackage := by
    simp only [List.map_cons, List.map_nil]
    decide
  assertClass := rfl

theorem isNameChar_assertClass (hn : s.subject.WellFormed) :
    ∀ c ∈ s.assertClass.toList, isNameChar c = true := by
  intro c hc
  rw [Surface.assertClass, Naming.assertClass, String.toList_append, List.mem_append] at hc
  rcases hc with hc | hc
  · exact hn.isNameChar_flatName.2 c hc
  · exact List.all_eq_true.1 (by decide : "Assert".toList.all isNameChar = true) c hc

theorem isNameChar_abstractAssertClass (hn : s.subject.WellFormed) :
    ∀ c ∈ s.abstractAssertClass.toList, isNameChar c = true := by
  intro c hc
  rw [Surface.abstractAssertClass, Naming.abstractAssertClass, String.toList_append,
    List.mem_append] at hc
  rcases hc with hc | hc
  · exact List.all_eq_true.1 (by decide : "Abstract".toList.all isNameChar = true) c hc
  · exact isNameChar_assertClass hn c hc

theorem assertClass_ne_empty (s : Surface) : s.assertClass ≠ "" := by
  simp [Surface.assertClass, Naming.assertClass]

theorem inline_of_mem_none : ∀ name ∈ (none : Option String), Inline name :=
  fun _ h => absurd h (by simp)

theorem isInline_of_mem_nil : ∀ p ∈ ([] : List Property), p.IsInline :=
  fun _ h => absurd h List.not_mem_nil

/-- A class that holds all methods itself has a source. -/
theorem IsDefault.flat_eq_ok (hw : w.IsDefault) (hs : s.IsInline) (hn : s.subject.WellFormed) :
    ∃ text, w.flat s = .ok text ∧
      IsSourceOf (s.targetPackage w.package) s.assertClass text := by
  have hr : Role.assertClass ∈ Role.ofClass := by decide
  obtain ⟨body, hbody, hsource⟩ := hw.isSourceOf_complete hs hr hs.properties
    (areEntries_concrete hs (by decide)) (assertClass_ne_empty s) (isNameChar_assertClass hn)
    inline_of_mem_none
  refine ⟨_, ?_, hsource⟩
  rw [flat, hbody]
  rfl

theorem IsDefault.inline_superclass (hw : w.IsDefault) (hs : s.IsInline)
    (batch : List QualifiedName) :
    Inline (w.superclass s batch).1 ∧ ∀ name ∈ (w.superclass s batch).2, Inline name := by
  rw [superclass]
  split
  · next parent hparent =>
    have hinline := hs.parent parent (Option.filter_eq_some_iff.1 hparent).1
    have hname : Inline (Naming.abstractAssertClass parent) :=
      Inline.append (by decide) hinline.assertClass
    refine ⟨hname, fun name hmem => ?_⟩
    obtain rfl := Option.some.inj hmem
    refine QualifiedName.inline_qualify ?_ hname
    cases hp : w.package with
    | none => exact hinline.package
    | some package => exact inline_of_isDotted (hw.package package hp)
  · refine ⟨?_, fun name hmem => absurd hmem (by simp)⟩
    cases s.isComparable with
    | false => decide
    | true => decide

/-- An abstract class and the concrete one that extends it have sources. -/
theorem IsDefault.hierarchical_eq_ok (hw : w.IsDefault) (hs : s.IsInline)
    (hn : s.subject.WellFormed) (batch : List QualifiedName) :
    ∃ pair, w.hierarchical s batch = .ok pair ∧
      IsSourceOf (s.targetPackage w.package) s.abstractAssertClass pair.abstractSource ∧
      IsSourceOf (s.targetPackage w.package) s.assertClass pair.concreteSource := by
  obtain ⟨hsuper, hparent⟩ := hw.inline_superclass hs batch
  have hr : Role.abstractAssertClass ∈ Role.ofClass := by decide
  have hr' : Role.hierarchicalAssertClass ∈ Role.ofClass := by decide
  have hne : s.abstractAssertClass ≠ "" := by
    simp [Surface.abstractAssertClass, Naming.abstractAssertClass, Naming.assertClass]
  obtain ⟨body, hbody, hsource⟩ := hw.isSourceOf_complete hs hr hs.declaredProperties
    (areEntries_abstract hs hsuper) hne (isNameChar_abstractAssertClass hn) hparent
  obtain ⟨body', hbody', hsource'⟩ := hw.isSourceOf_complete hs hr' isInline_of_mem_nil
    (areEntries_concrete hs (by decide)) (assertClass_ne_empty s) (isNameChar_assertClass hn)
    inline_of_mem_none
  refine ⟨⟨_, _⟩, ?_, hsource, hsource'⟩
  rw [hierarchical, hbody, hbody']
  rfl

end ClassWriter
end AssertionWriter
