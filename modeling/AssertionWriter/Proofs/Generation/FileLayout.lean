/-
  AssertionWriter.Proofs.Generation.FileLayout

  The layout of the files that a run writes: each lies in the directory of its package,
  declares this package, and is named for the one class that it declares. The directory and
  the package are computed on different ways, for classes as well as for entry points, and
  the file of an entry point has the name that is found in its source.
-/
import AssertionWriter.Proofs.Generation.Paths
import AssertionWriter.Proofs.Generation.Writing

namespace AssertionWriter
open Files Files.FileSystem Template Text

/-! ## Laid out files -/

/-- Whether a text declares a package in its first line, or none if it is the default one. -/
def DeclaresPackage (package text : String) : Prop :=
  if package = "" then ∀ line ∈ linesWithEnds text.toList, ¬"package ".toList <+: line
  else ("package " ++ package ++ ";").toList <+: text.toList

/-- A file in the directory of its package, with the name of the class that it declares. -/
def SourceFile.IsLaidOut (base : String) (f : SourceFile) : Prop :=
  ∃ package name, f.directory = packageDirectory base package ∧
    DeclaresPackage package f.content ∧ topLevelClasses f.content = [name] ∧
    f.name = name ++ Naming.fileEnding

/-- A file that declares a class in a package, and lies where that class belongs. -/
structure SourceFile.IsFileOf (base package name : String) (f : SourceFile) : Prop where
  directory : f.directory = packageDirectory base package
  file : f.name = name ++ Naming.fileEnding
  declared : DeclaresPackage package f.content
  classes : topLevelClasses f.content = [name]

theorem SourceFile.IsFileOf.isLaidOut {base package name : String} {f : SourceFile}
    (h : f.IsFileOf base package name) : f.IsLaidOut base :=
  ⟨package, name, h.directory, h.declared, h.classes, h.file⟩

theorem Template.IsSourceOf.isFileOf {package name text : String}
    (h : IsSourceOf package name text) (base : String) : SourceFile.IsFileOf base package name
      ⟨packageDirectory base package, name ++ Naming.fileEnding, text⟩ := by
  obtain ⟨r, hr, rfl⟩ := h
  refine ⟨rfl, rfl, ?_, hr.topLevelClasses_eq⟩
  rw [DeclaresPackage]
  split
  · next hp => exact hr.not_package_prefix hp
  · next hp => exact hr.package_prefix hp

namespace GenerationOptions

variable {o : GenerationOptions} {c : Catalog}

/-- Whether the sources of a run are those of the default templates. -/
structure IsDefault (o : GenerationOptions) : Prop where
  templates : o.templatesDirectory = none
  package : ∀ package ∈ o.package, QualifiedName.isDotted package = true

theorem IsDefault.writer (ho : o.IsDefault) : (o.writer .default).toClassWriter.IsDefault :=
  ⟨rfl, ho.package⟩

/-- The files for a subject are those of its classes, whether there are one or two. -/
theorem IsDefault.classFiles_eq_ok (ho : o.IsDefault) (batch : List QualifiedName) {s : Surface}
    (hs : s.IsInline) (hn : s.subject.WellFormed) :
    ∃ files, o.classFiles .default batch s = .ok files ∧
      (∀ name ∈ o.classesOf s.subject,
        ∃ f ∈ files, f.IsFileOf o.outputDirectory (o.packageOf s.subject) name) ∧
      ∀ f ∈ files, f.IsLaidOut o.outputDirectory := by
  rw [classFiles, classesOf]
  split
  · obtain ⟨pair, hpair, habstract, hconcrete⟩ := ho.writer.hierarchical_eq_ok hs hn batch
    have habstract := habstract.isFileOf o.outputDirectory
    have hconcrete := hconcrete.isFileOf o.outputDirectory
    rw [SourceWriter.hierarchicalFiles, hpair]
    refine ⟨_, rfl, ?_, ?_⟩
    · intro name hname
      rcases List.mem_cons.1 hname with rfl | hname
      · exact ⟨_, List.mem_cons_self .., habstract⟩
      · rw [List.mem_singleton.1 hname]
        exact ⟨_, List.mem_cons_of_mem _ (List.mem_singleton_self _), hconcrete⟩
    · intro f hf
      rcases List.mem_cons.1 hf with rfl | hf
      · exact habstract.isLaidOut
      · rw [List.mem_singleton.1 hf]
        exact hconcrete.isLaidOut
  · obtain ⟨source, hsource, hflat⟩ := ho.writer.flat_eq_ok hs hn
    have hflat := hflat.isFileOf o.outputDirectory
    rw [SourceWriter.flatFile, hsource]
    refine ⟨_, rfl, ?_, ?_⟩
    · intro name hname
      rw [List.mem_singleton.1 hname]
      exact ⟨_, List.mem_singleton_self _, hflat⟩
    · intro f hf
      rw [List.mem_singleton.1 hf]
      exact hflat.isLaidOut

/-- The file of an entry point is laid out, and there is one unless there are no types. -/
theorem IsDefault.entryPointFile?_eq_ok (ho : o.IsDefault) {ss : List Surface}
    (hs : ∀ s ∈ ss, s.IsInline) (mode : EntryPointMode) :
    ∃ file?, (o.writer .default).entryPointFile? ss mode = .ok file? ∧ (file? = none → ss = []) ∧
      ∀ f ∈ file?, f.IsLaidOut o.outputDirectory := by
  by_cases hne : ss = []
  · rw [hne]
    exact ⟨none, rfl, fun _ => rfl, fun f hf => absurd hf (by simp)⟩
  · obtain ⟨source, name, hsource, hclass, hfile⟩ := EntryPoint.source_eq_ok ho.writer hs hne mode
    have hfileOf := hclass.isFileOf o.outputDirectory
    have hempty : source.isEmpty = false := by
      rw [Bool.eq_false_iff, Ne, String.isEmpty_iff]
      rintro rfl
      exact absurd hfileOf.classes (by simp [topLevelClasses, linesWithEnds])
    rw [← hfile] at hfileOf
    rw [SourceWriter.entryPointFile?, hsource]
    refine ⟨some ⟨packageDirectory (o.writer .default).base
      ((o.writer .default).package.getD (EntryPoint.commonPackage ss)),
      EntryPoint.fileName source mode, source⟩, ?_, fun h => absurd h (by simp), fun f hf => ?_⟩
    · simp [bind, Except.bind, hempty]
      rfl
    · obtain rfl := Option.some.inj hf
      exact hfileOf.isLaidOut

/-- All files for some surfaces are laid out. -/
theorem IsDefault.sourceFiles_eq_ok (ho : o.IsDefault) {ss : List Surface}
    (hs : ∀ s ∈ ss, s.IsInline ∧ s.subject.WellFormed) :
    ∃ files, o.sourceFiles .default ss = .ok files ∧
      ∀ f ∈ files, f.IsLaidOut o.outputDirectory := by
  obtain ⟨classes, hclasses, hlaid⟩ := exists_mapM fun s hmem =>
    (ho.classFiles_eq_ok (ss.map (·.subject)) (hs s hmem).1 (hs s hmem).2).imp
      fun _ h => ⟨h.1, h.2.2⟩
  obtain ⟨entryPoints, hentryPoints, hlaid'⟩ :=
    exists_mapM fun mode (_ : mode ∈ o.entryPoints) =>
      (ho.entryPointFile?_eq_ok (fun s hmem => (hs s hmem).1) mode).imp fun _ h => ⟨h.1, h.2.2⟩
  refine ⟨classes.flatten ++ entryPoints.filterMap id, ?_, fun f hf => ?_⟩
  · exact sourceFiles_eq_ok_iff.2 ⟨classes, entryPoints, hclasses, hentryPoints, rfl⟩
  · rcases List.mem_append.1 hf with hf | hf
    · obtain ⟨files, hfiles, hf⟩ := List.mem_flatten.1 hf
      exact hlaid files hfiles f hf
    · obtain ⟨file?, hfile, hf⟩ := List.mem_filterMap.1 hf
      exact hlaid' file? hfile f hf

/-! ## Runs -/

/-- Once the types are described, a plan is made, and its files are laid out. -/
theorem IsDefault.plan_eq_ok (ho : o.IsDefault) (hc : c.Readable) (hi : c.hasIdentifiers = true)
    {ss : List Surface} (hss : o.surfaces c = .ok ss) :
    ∃ files, o.plan c .default = .ok (ss.length, files) ∧
      ∀ f ∈ files, f.IsLaidOut o.outputDirectory := by
  obtain ⟨ds, hds, rfl⟩ := surfaces_eq_map hss
  have hwf := wellFormed_of_selection hc hi hds
  obtain ⟨files, hfiles, hlaid⟩ :=
    ho.sourceFiles_eq_ok fun s hs => ⟨(hwf s hs).1, (hwf s hs).2.1⟩
  exact ⟨files, plan_eq_ok_iff.2 ⟨_, hss, rfl, hfiles⟩, hlaid⟩

/-- The files that are planned are laid out, and of these are all texts that a run leaves where
    they were not before. -/
theorem isLaidOut_of_run {text : String} (hc : Catalog.parse text = .ok c)
    (hi : c.hasIdentifiers = true) (ho : o.IsDefault) :
    (∀ n files, o.plan c .default = .ok (n, files) → ∀ f ∈ files, f.IsLaidOut o.outputDirectory) ∧
    ∀ (fs fs' : FileSystem) (l : Location) (content : String),
      fs' = ((o.run c : StateM FileSystem _).run fs).2 →
      fs'.node? l = some (.file (.text content)) → fs.node? l ≠ some (.file (.text content)) →
        ∃ f : SourceFile, f.content = content ∧ fs'.Leads f.path l ∧
          f.IsLaidOut o.outputDirectory := by
  have hplanned : ∀ n files, o.plan c .default = .ok (n, files) →
      ∀ f ∈ files, f.IsLaidOut o.outputDirectory := by
    intro n files hplan
    obtain ⟨ss, hss, -, -⟩ := plan_eq_ok_iff.1 hplan
    obtain ⟨files', hfiles', hlaid⟩ := ho.plan_eq_ok (Catalog.readable_of_parse hc) hi hss
    obtain ⟨-, rfl⟩ := Prod.mk.inj (Except.ok.inj (hplan.symm.trans hfiles'))
    exact hlaid
  refine ⟨hplanned, ?_⟩
  rintro fs fs' l content rfl hl hbefore
  -- A text that is new on the file system is that of a planned file.
  obtain ⟨sources, hsources, hwritten⟩ := written_run ho.templates c fs
  obtain ⟨f, hf, hcontent, hleads⟩ := (hwritten.texts l content hl).resolve_left hbefore
  refine ⟨f, hcontent, hleads, ?_⟩
  rcases hsources with rfl | ⟨n, hplan⟩
  · exact absurd hf List.not_mem_nil
  · exact hplanned n sources hplan f hf

/-- A run for all types, with pairs of classes and an entry point. -/
theorem isLaidOut_of_run_sameFlatNames :
    Catalog.parse Catalog.sameFlatNames.toText = .ok Catalog.sameFlatNames ∧
      Catalog.sameFlatNames.hasIdentifiers = true ∧
      IsDefault { allTypes with hierarchical := true, entryPoints := [.standard] } ∧
      ∃ files, plan { allTypes with hierarchical := true, entryPoints := [.standard] }
          Catalog.sameFlatNames .default = .ok (2, files) ∧
        ∀ f ∈ files, f.IsLaidOut "out" := by
  have ho : IsDefault { allTypes with hierarchical := true, entryPoints := [.standard] } :=
    ⟨rfl, fun _ hp => absurd hp (by simp [allTypes])⟩
  obtain ⟨files, hplan, -⟩ := ho.plan_eq_ok Catalog.readable_sameFlatNames
    Catalog.hasIdentifiers_sameFlatNames (surfaces_sameFlatNames rfl)
  refine ⟨Catalog.parse_sameFlatNames, Catalog.hasIdentifiers_sameFlatNames, ho, files, hplan, ?_⟩
  exact (isLaidOut_of_run Catalog.parse_sameFlatNames Catalog.hasIdentifiers_sameFlatNames ho).1
    2 files hplan

end GenerationOptions
end AssertionWriter
