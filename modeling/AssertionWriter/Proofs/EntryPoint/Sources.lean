/-
  AssertionWriter.Proofs.EntryPoint.Sources

  The sources of entry points with the default templates. The methods fit as a block into
  the frame of every mode; so each entry point has a source, and the name of the class that
  is read back from it, line by line, is that of the class it declares.
-/
import AssertionWriter.EntryPoint.Basic
import AssertionWriter.Proofs.AssertionClass.Sources

namespace AssertionWriter.EntryPoint
open Template Text QualifiedName ClassWriter

/-! ## Templates -/

theorem isFrame_classRole (mode : EntryPointMode) : mode.classRole.isFrame = true := by
  cases mode <;> rfl

theorem isFrame_methodRole (mode : EntryPointMode) : mode.methodRole.isFrame = false := by
  cases mode <;> rfl

theorem mem_holesOf_classRole {mode : EntryPointMode} {h : Hole}
    (hh : h ∈ holesOf mode.classRole.layout.segments) : h = .package ∨ h = .entryPoints := by
  have hall : ((holesOf mode.classRole.layout.segments).all fun h =>
      h = .package || h = .entryPoints) = true := by
    cases mode <;> decide
  simpa using List.all_eq_true.1 hall h hh

theorem mem_holesOf_methodRole {mode : EntryPointMode} {h : Hole}
    (hh : h ∈ holesOf mode.methodRole.layout.segments) : h = .assertClass ∨ h = .subject := by
  have hall : ((holesOf mode.methodRole.layout.segments).all fun h =>
      h = .assertClass || h = .subject) = true := by
    cases mode <;> decide
  simpa using List.all_eq_true.1 hall h hh

/-- Whether the methods of an entry point stand nowhere in a line but at its start. -/
def leadsWithMethods : Line → Bool
  | .text _ :: more => !more.contains (.hole .entryPoints)
  | _ => true

theorem entryPoints_not_mem {mode : EntryPointMode} {s : String} {more : Line}
    (hline : .text s :: more ∈ mode.classRole.layout) : .hole .entryPoints ∉ more := by
  have hall : (mode.classRole.layout.all leadsWithMethods) = true := by cases mode <;> decide
  simpa [leadsWithMethods] using List.all_eq_true.1 hall _ hline

/-- A method starts with an empty line. -/
theorem exists_methodRole_layout (mode : EntryPointMode) :
    ∃ more, mode.methodRole.layout = [] :: more := by
  cases mode <;> exact ⟨_, rfl⟩

/-! ## Methods -/

/-- The values for the method for a subject. -/
def methodFilling (package : Option String) (s : Surface) : Filling :=
  .ofList [(.assertClass, s.qualifiedAssertClass package), (.subject, s.subject.qualified)]

/-- The lines of the methods for some subjects. -/
def methodLines (mode : EntryPointMode) (package : Option String) (surfaces : List Surface) :
    Layout :=
  surfaces.flatMap fun s => mode.methodRole.layout.fillBy (methodFilling package s).get?

variable {w : ClassWriter} {mode : EntryPointMode} {surfaces : List Surface}

theorem fits_methodFilling (hw : w.IsDefault) {s : Surface} (hs : s.IsInline) :
    (methodFilling w.package s).Fits := by
  intro e hmem
  have hmem := Filling.mem_of_mem_ofList hmem
  simp only [List.mem_cons, List.not_mem_nil, or_false] at hmem
  rcases hmem with rfl | rfl
  · exact Fits.of_inline rfl
      (QualifiedName.inline_qualify (hw.inline_targetPackage hs) hs.subject.assertClass)
  · exact Fits.of_inline rfl hs.subject.qualified

theorem isSealed_methodLines (hw : w.IsDefault) (hs : ∀ s ∈ surfaces, s.IsInline) :
    ∀ line ∈ methodLines mode w.package surfaces, line.IsSealed := by
  intro line hline
  obtain ⟨s, hmem, hline⟩ := List.mem_flatMap.1 hline
  exact Layout.isSealed_of_mem_fillBy (Role.isSealed_of_mem_layout (isFrame_methodRole mode))
    (fits_methodFilling hw (hs s hmem)).get? line hline

/-- The methods have no holes left. -/
theorem not_mem_holesOf_methodLines (package : Option String) (h : Hole) :
    h ∉ holesOf (methodLines mode package surfaces).segments := by
  intro hh
  obtain ⟨line, hline, hh⟩ := Layout.mem_holesOf_segments.1 hh
  obtain ⟨s, -, hline⟩ := List.mem_flatMap.1 hline
  have hfilled := Layout.mem_holesOf_segments.2 ⟨line, hline, hh⟩
  rw [Layout.segments_fillBy, mem_holesOf_fillBy, methodFilling,
    Filling.get?_ofList_eq_none_iff] at hfilled
  rcases mem_holesOf_methodRole hfilled.1 with rfl | rfl
  · exact hfilled.2 (by simp)
  · exact hfilled.2 (by simp)

/-- The text of the methods is that of these lines. -/
theorem toList_methods (hw : w.IsDefault) (hs : ∀ s ∈ surfaces, s.IsInline) :
    (String.join (surfaces.map (method mode.methodRole.body w.package))).toList =
      joined (methodLines mode w.package surfaces).segments := by
  induction surfaces with
  | nil => rfl
  | cons s surfaces ih =>
    have hsealed := Role.isSealed_of_mem_layout (isFrame_methodRole mode)
    have hmethod := (fits_methodFilling hw (hs s (by simp))).toList_fill
      (fun line hline => (hsealed line hline).sealed) mode.methodRole.layout.toList_toText
    have hlines : methodLines mode w.package (s :: surfaces) =
        mode.methodRole.layout.fillBy (methodFilling w.package s).get? ++
          methodLines mode w.package surfaces := List.flatMap_cons
    rw [List.map_cons, String.join_cons, String.toList_append,
      ih fun t ht => hs t (List.mem_cons_of_mem _ ht), hlines, Layout.segments_append,
      joined_append, ← hmethod]
    rfl

/-- The methods start with a line feed, if there are any. -/
theorem head?_methodLines (mode : EntryPointMode) (package : Option String)
    (surfaces : List Surface) :
    (joined (methodLines mode package surfaces).segments).head? ≠ some '\x7b' := by
  cases surfaces with
  | nil => simp [methodLines, Layout.segments]
  | cons s surfaces =>
    obtain ⟨more, hmore⟩ := exists_methodRole_layout mode
    rw [methodLines, List.flatMap_cons, hmore, Layout.fillBy, List.map_cons, List.cons_append,
      Layout.segments_cons]
    simp [Segment.toText]

/-- The methods fit into the hole for them. -/
theorem fits_methods (hw : w.IsDefault) (hs : ∀ s ∈ surfaces, s.IsInline)
    (mode : EntryPointMode) :
    Fits .entryPoints (String.join (surfaces.map (method mode.methodRole.body w.package))) := by
  have hsealed : ∀ line ∈ methodLines mode w.package surfaces, line.IsSealed :=
    isSealed_methodLines hw hs
  have htext : ∀ g ∈ (methodLines mode w.package surfaces).segments, ∃ s, g = .text s :=
    exists_text_of_holesOf (not_mem_holesOf_methodLines w.package)
  have hbrace := Layout.isSealed_segments (by decide) rfl fun line h => (hsealed line h).sealed
  have hletter := Layout.isSealed_segments (by decide) rfl fun line h => (hsealed line h).unmarked
  rw [Fits, toList_methods hw hs]
  exact ⟨isApart_true_of_head?_ne (isApart_joined htext hbrace.1)
    (head?_methodLines mode w.package surfaces),
    isApart_joined htext hletter.1⟩

/-! ## Classes -/

/-- The common package is that of one of the subjects. -/
theorem commonPackage_mem (hne : surfaces ≠ []) :
    ∃ s ∈ surfaces, commonPackage surfaces = s.package := by
  cases surfaces with
  | nil => exact absurd rfl hne
  | cons s surfaces =>
    have hmem : commonPackage (s :: surfaces) ∈ (s :: surfaces).map Surface.package := by
      refine List.foldlRecOn (motive := (· ∈ (s :: surfaces).map Surface.package)) _ _ (by simp) ?_
      intro best hbest p hp
      split
      · exact List.mem_cons_of_mem _ hp
      · exact hbest
    obtain ⟨t, ht, hp⟩ := List.mem_map.1 hmem
    exact ⟨t, ht, hp.symm⟩

theorem inline_package (hw : w.IsDefault) (hs : ∀ s ∈ surfaces, s.IsInline) (hne : surfaces ≠ []) :
    Inline (w.package.getD (commonPackage surfaces)) := by
  cases hp : w.package with
  | none =>
    obtain ⟨s, hmem, hpackage⟩ := commonPackage_mem hne
    rw [Option.getD_none, hpackage]
    exact (hs s hmem).subject.package
  | some package => exact inline_of_isDotted (hw.package package hp)

/-- The values for the holes of an entry point. -/
def classFilling (package methods : String) : Filling :=
  .ofList [(.package, package), (.entryPoints, methods)]

theorem fits_classFilling {package methods : String} (hp : Inline package)
    (hm : Fits .entryPoints methods) : (classFilling package methods).Fits := by
  intro e hmem
  have hmem := Filling.mem_of_mem_ofList hmem
  simp only [List.mem_cons, List.not_mem_nil, or_false] at hmem
  rcases hmem with rfl | rfl
  · exact Fits.of_inline rfl hp
  · exact hm

/-- Every hole of the frame of a mode gets a value. -/
theorem get?_classFilling_ne_none {h : Hole} (hh : h ∈ holesOf mode.classRole.layout.segments)
    (package methods : String) : (classFilling package methods).get? h ≠ none := by
  rw [Ne, classFilling, Filling.get?_ofList_eq_none_iff]
  rcases mem_holesOf_classRole hh with rfl | rfl
  · simp
  · simp

/-- The source of an entry point is its template with the methods in it. -/
theorem source_eq_of_template {frame body : String} (hne : surfaces ≠ [])
    (hframe : w.template mode.classRole = .ok frame)
    (hbody : w.template mode.methodRole = .ok body) :
    source w surfaces mode = .ok ((classFilling (w.package.getD (commonPackage surfaces))
      (String.join ((inOrder surfaces).map (method body w.package)))).fill
        (adaptPackage (w.package.getD (commonPackage surfaces)) frame)) := by
  have hempty : surfaces.isEmpty = false := by simpa using hne
  rw [source, hempty, hframe, hbody]
  rfl

theorem source_eq (hw : w.IsDefault) (hne : surfaces ≠ []) (mode : EntryPointMode) :
    source w surfaces mode = .ok ((classFilling (w.package.getD (commonPackage surfaces))
      (String.join ((inOrder surfaces).map (method mode.methodRole.body w.package)))).fill
        (adaptPackage (w.package.getD (commonPackage surfaces)) mode.classRole.body)) :=
  source_eq_of_template hne (hw.template _) (hw.template _)

theorem name_ne_assertClass {f : Frame} (h : mode.classRole.layout = f.layout) :
    f.name ≠ .hole .assertClass := by
  intro hname
  have hmem : Hole.assertClass ∈ holesOf mode.classRole.layout.segments := by
    rw [h, Layout.mem_holesOf_segments]
    refine ⟨f.declaration, by simp [Frame.layout, Frame.inner], ?_⟩
    simp [mem_holesOf, Frame.declaration, hname]
  rcases mem_holesOf_classRole hmem with hh | hh
  · exact absurd hh (by decide)
  · exact absurd hh (by decide)

/-- An entry point has a source, made from the frame of its mode and the methods. -/
theorem exists_rendering (hw : w.IsDefault) (hs : ∀ s ∈ surfaces, s.IsInline)
    (hne : surfaces ≠ []) (mode : EntryPointMode) :
    ∃ text r, source w surfaces mode = .ok text ∧
      Rendering.IsSource r (w.package.getD (commonPackage surfaces)) text ∧
      r.frame.layout = mode.classRole.layout ∧ r.rest = [] ∧
      r.value? = (classFilling (w.package.getD (commonPackage surfaces)) (String.join
        ((inOrder surfaces).map (method mode.methodRole.body w.package)))).get? := by
  obtain ⟨f, hlayout, hf⟩ := Role.exists_frame (isFrame_classRole mode)
  have hpackage := inline_package hw hs hne
  have hordered : ∀ s ∈ inOrder surfaces, s.IsInline := by
    intro s hmem
    exact hs s (List.mem_mergeSort.1 (mem_of_mem_dropRepeats hmem))
  have hmethods := fits_methods hw hordered mode
  have hsource := source_eq hw hne mode
  generalize String.join _ = methods at hmethods hsource ⊢
  generalize w.package.getD (commonPackage surfaces) = package at hpackage hsource ⊢
  have hfits := fits_classFilling hpackage hmethods
  have hbody : mode.classRole.body.toList = joined f.layout.segments := by
    rw [← hlayout]
    exact mode.classRole.layout.toList_toText
  let r : Rendering := ⟨f, [], (classFilling package methods).get?⟩
  refine ⟨_, r, hsource, ⟨hf, by simp [r], hfits.get?, ?_, rfl, hpackage, ?_, ?_⟩, hlayout.symm,
    rfl, rfl⟩
  · intro h hh
    have hmem : h ∈ holesOf f.layout.segments :=
      (Rendering.mem_holesOf_lines hh).resolve_right (by simp [r, Layout.segments, holesOf])
    rw [← hlayout] at hmem
    exact get?_classFilling_ne_none hmem package methods
  · obtain ⟨n, hn, hhead⟩ := hf.name.resolve_left (name_ne_assertClass hlayout)
    change (joined [f.name.fillBy _]).head?.any isNameChar = true
    rw [hn]
    simpa [Segment.fillBy, Segment.toText] using hhead
  · refine hfits.toList_fill (Rendering.isSealed_of_mem_lines hf (by simp [r])) ?_
    rw [hf.toList_adaptPackage hbody, Rendering.lines, List.append_nil]

/-! ## Files -/

theorem declaredClass?_eq_none {line : List Char} (h : (trimStart line).head? ≠ some 'p') :
    declaredClass? line = none := by
  have hlead : after? "public class ".toList (trimStart line) = none :=
    after?_eq_none_of_head?_ne h
  rw [declaredClass?, hlead]
  rfl

/-- The documentation of an entry point has one line for each line of the template, and none of
    them starts with a `p`. -/
theorem doc_spec {r : Rendering} {package text : String} (h : r.IsSource package text)
    (hlayout : r.frame.layout = mode.classRole.layout) {line : Line} (hline : line ∈ r.frame.doc) :
    '\n' ∉ joined (line.map (Segment.fillBy r.value?)) ∧
      (trimStart (joined (line.map (Segment.fillBy r.value?)) ++ ['\n'])).head? ≠ some 'p' := by
  have hmem : line ∈ mode.classRole.layout := by
    rw [← hlayout]
    simp [Frame.layout, Frame.inner, hline]
  have hholes : ∀ k ∈ holesOf line, k = .package ∨ k = .entryPoints := fun k hk =>
    mem_holesOf_classRole (Layout.mem_holesOf_segments.2 ⟨line, hmem, hk⟩)
  obtain ⟨hplain, hdoc⟩ := h.frame.doc line hline
  rcases hdoc with ⟨more, rfl⟩ | ⟨s, more, c, rest, rfl, htrim, hc⟩
  · -- The frames of entry points have no imports.
    rcases hholes .imports (by simp [mem_holesOf]) with hh | hh
    · exact absurd hh (by decide)
    · exact absurd hh (by decide)
  · constructor
    · refine not_mem_joined_fillBy hplain.single fun k hk v hv => ?_
      rcases hholes k hk with rfl | rfl
      · obtain rfl := Option.some.inj (h.declared.symm.trans hv)
        exact h.inline.not_mem.2
      · exact absurd (mem_holesOf.1 hk) (by simp [entryPoints_not_mem hmem])
    · rw [List.map_cons, Segment.fillBy, joined_cons, Segment.toText, List.append_assoc,
        trimStart_append (by simp [htrim]), htrim]
      simpa using hc

/-- The lines in front of the declaration of a class declare none. -/
theorem declaredClass?_opening {r : Rendering} {package text : String}
    (h : r.IsSource package text) (hlayout : r.frame.layout = mode.classRole.layout) :
    ∀ line ∈ linesWithEnds r.opening, declaredClass? line = none := by
  have hsingle : ∀ line ∈ r.frame.doc.fillBy r.value?, '\n' ∉ joined line := by
    intro line hline
    obtain ⟨line, hmem, rfl⟩ := List.mem_map.1 hline
    exact (doc_spec h hlayout hmem).1
  intro line hline
  rw [Rendering.opening, Layout.linesWithEnds_joined hsingle] at hline
  obtain ⟨filled, hfilled, rfl⟩ := List.mem_map.1 hline
  obtain ⟨line, hmem, rfl⟩ := List.mem_map.1 hfilled
  exact declaredClass?_eq_none (doc_spec h hlayout hmem).2

theorem declaredClass?_heading {package : String} (hp : Inline package) :
    ∀ line ∈ linesWithEnds (Rendering.heading package), declaredClass? line = none := by
  intro line hline
  rw [Rendering.linesWithEnds_heading hp] at hline
  split at hline
  · exact absurd hline (by simp)
  · rcases List.mem_cons.1 hline with rfl | hline
    · rfl
    · rw [List.mem_singleton.1 hline]
      rfl

/-- A line that declares a class of a name. -/
theorem declaredClass?_eq_some {rest name : List Char}
    (hname : rest.takeWhile isNameChar = name) (hne : name ≠ []) :
    declaredClass? ("public class ".toList ++ rest) = some (String.ofList name) := by
  have hlead : trimStart ("public class ".toList ++ rest) = "public class ".toList ++ rest :=
    trimStart_cons (by decide) _
  have hrest : trimStart rest = rest := by
    refine trimStart_of_not_isBlank ?_
    cases rest with
    | nil => rfl
    | cons c cs =>
      cases hc : isNameChar c with
      | true => simp [isBlank_eq_false_of_isNameChar hc]
      | false => exact absurd hname (by simpa [hc] using Ne.symm hne)
  have hafter : after? "public class ".toList ("public class ".toList ++ rest) = some rest :=
    after?_eq_some_iff.2 rfl
  rw [declaredClass?, hlead, hafter, Option.bind_some, hrest, hname]
  cases name with
  | nil => exact absurd rfl hne
  | cons c cs => rfl

/-- The file of an entry point has the name of the class that it declares. -/
theorem fileName_eq {r : Rendering} {package text : String} (h : r.IsSource package text)
    (hlayout : r.frame.layout = mode.classRole.layout) :
    fileName text mode = r.className ++ Naming.fileEnding := by
  obtain ⟨more, lines, hmore, hlines, -⟩ := h.exists_lines
  have hlead : r.frame.lead = "public class " :=
    h.frame.lead.resolve_right fun hh => name_ne_assertClass hlayout.symm hh.2
  have hdeclared : declaredClass? (r.frame.lead.toList ++ r.className.toList ++ more) =
      some r.className := by
    rw [hlead, List.append_assoc, declaredClass?_eq_some (h.takeWhile_eq hmore) h.className_ne_nil,
      String.ofList_toList]
  -- The first line that declares a class is that of the declaration.
  rw [fileName, h.linesWithEnds_eq, hlines, List.findSome?_append, List.findSome?_append,
    List.findSome?_eq_none_iff.2 (declaredClass?_heading h.inline),
    List.findSome?_eq_none_iff.2 (declaredClass?_opening h hlayout), List.findSome?_cons, hdeclared]
  rfl

/-- The line of a frame that declares the class, with the name that the file has. -/
theorem exists_declaration_mem (mode : EntryPointMode) : ∃ declaration : String,
    [.text "public class ", .text declaration, .text " \x7b"] ∈ mode.classRole.layout ∧
      String.ofList (declaration.toList.takeWhile isNameChar) ++ Naming.fileEnding =
        mode.defaultFile := by
  cases mode
  case standard => exact ⟨"Assertions", by decide, by decide +kernel⟩
  case bdd => exact ⟨"BddAssertions", by decide, by decide +kernel⟩
  case soft =>
    exact ⟨"SoftAssertions extends org.assertj.core.api.SoftAssertions", by decide,
      by decide +kernel⟩
  case jUnitSoft =>
    exact ⟨"JUnitSoftAssertions extends org.assertj.core.api.JUnitSoftAssertions", by decide,
      by decide +kernel⟩
  case autoCloseableSoft =>
    exact ⟨"AutoCloseableSoftAssertions extends org.assertj.core.api.AutoCloseableSoftAssertions",
      by decide, by decide +kernel⟩
  case bddSoft =>
    exact ⟨"BddSoftAssertions extends org.assertj.core.api.BDDSoftAssertions", by decide,
      by decide +kernel⟩
  case jUnitBddSoft =>
    exact ⟨"JUnitBddSoftAssertions extends org.assertj.core.api.JUnitBDDSoftAssertions", by decide,
      by decide +kernel⟩
  case autoCloseableBddSoft =>
    exact ⟨"AutoCloseableBddSoftAssertions extends " ++
      "org.assertj.core.api.AutoCloseableBDDSoftAssertions", by decide +kernel, by decide +kernel⟩

/-- With the default templates the class has the name of the mode. -/
theorem fileName_eq_defaultFile (hw : w.IsDefault) (hs : ∀ s ∈ surfaces, s.IsInline)
    (hne : surfaces ≠ []) {text : String} (h : source w surfaces mode = .ok text) :
    fileName text mode = mode.defaultFile := by
  obtain ⟨text', r, hsource, hr, hlayout, -⟩ := exists_rendering hw hs hne mode
  obtain rfl := Except.ok.inj (h.symm.trans hsource)
  obtain ⟨declaration, hmem, hfile⟩ := exists_declaration_mem mode
  have hdeclaration := hr.frame.declaration_eq (hlayout ▸ hmem) (by decide) (by decide)
  have hname : r.frame.name = .text declaration :=
    (List.cons.inj (List.cons.inj hdeclaration).2).1
  rw [fileName_eq hr hlayout, Rendering.className, hname, ← hfile]
  simp [Segment.fillBy, Segment.toText]

/-- An entry point has a source, in a file with the name of the class. -/
theorem source_eq_ok (hw : w.IsDefault) (hs : ∀ s ∈ surfaces, s.IsInline) (hne : surfaces ≠ [])
    (mode : EntryPointMode) :
    ∃ text name, source w surfaces mode = .ok text ∧
      IsSourceOf (w.package.getD (commonPackage surfaces)) name text ∧
      fileName text mode = name ++ Naming.fileEnding := by
  obtain ⟨text, r, hsource, hr, hlayout, -⟩ := exists_rendering hw hs hne mode
  exact ⟨text, r.className, hsource, ⟨r, hr, rfl⟩, fileName_eq hr hlayout⟩

end AssertionWriter.EntryPoint
