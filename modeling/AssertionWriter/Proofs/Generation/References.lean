/-
  AssertionWriter.Proofs.Generation.References

  The references between the files of a run with the default templates lead to files of the
  run. The names are read from the sources, and the files are those that lie where the
  named classes belong and declare them: abstract classes extend those of parents in the
  run, and entry points create objects of the assertion classes of all types.
-/
import AssertionWriter.Proofs.AssertionClass.Superclass
import AssertionWriter.Proofs.EntryPoint.Methods
import AssertionWriter.Proofs.EntryPoint.Order
import AssertionWriter.Proofs.Generation.Failure
import AssertionWriter.Proofs.Generation.FileLayout

namespace AssertionWriter
open ClassWriter EntryPoint Files Files.FileSystem Template Text

/-! ## Entry points -/

/-- No entry point declares an abstract class. -/
theorem EntryPoint.superclassesIn_source {w : ClassWriter} (hw : w.IsDefault) {ss : List Surface}
    (hs : ∀ s ∈ ss, s.IsInline) (hne : ss ≠ []) {mode : EntryPointMode} {text : String}
    (h : source w ss mode = .ok text) : superclassesIn text = [] := by
  obtain ⟨text', r, hsource, hr, hlayout, -⟩ := exists_rendering hw hs hne mode
  obtain rfl := Except.ok.inj (h.symm.trans hsource)
  refine hr.superclassesIn_eq_nil (hr.frame.lead_eq ?_)
  rw [hlayout]
  cases mode <;> decide

namespace GenerationOptions

/-! ## References -/

variable {o : GenerationOptions} {c : Catalog} {s : Surface} {batch : List QualifiedName}
  {ds : List TypeDecl} {files : List SourceFile}

/-- Whether there is the file of a class in a package. -/
def Provides (o : GenerationOptions) (files : List SourceFile) (package name : String) : Prop :=
  ∃ f ∈ files, f.IsFileOf o.outputDirectory package name

/-- What the abstract class for a type extends, if the files are those of a run for some types: the
    abstract class of the parent, which is there, or one of the framework if the run is not for the
    parent. -/
def ExtendsProvided (o : GenerationOptions) (c : Catalog) (ds : List TypeDecl)
    (files : List SourceFile) (d : TypeDecl) (super : String) : Prop :=
  -- The abstract class for a parent named `Object` is named like one of the framework, so the name
  -- alone does not tell which of the two is extended.
  (∃ parent ∈ (Surface.ofDeclaration c o.policy d).parent, parent ∈ ds.map (·.name) ∧
    super = Naming.abstractAssertClass parent ∧ o.Provides files (o.packageOf parent) super) ∨
  (∀ parent ∈ (Surface.ofDeclaration c o.policy d).parent, parent ∉ ds.map (·.name)) ∧
    (super = objectAssert ∨ super = comparableAssert)

/-- Whether a file holds the abstract class for a type. -/
def IsAbstractFile (o : GenerationOptions) (c : Catalog) (ds : List TypeDecl)
    (files : List SourceFile) (d : TypeDecl) (f : SourceFile) : Prop :=
  f.IsFileOf o.outputDirectory (o.packageOf d.name) (Naming.abstractAssertClass d.name) ∧
    ∃ super, superclassesIn f.content = [super] ∧ o.ExtendsProvided c ds files d super

/-- Whether the entry point in a file has one method for each of some types, all of which give back
    objects that they create of classes that are there. -/
structure IsEntryFile (o : GenerationOptions) (ns : List QualifiedName) (files : List SourceFile)
    (f : SourceFile) : Prop where
  methods : ∃ ms : List QualifiedName, ms.Perm ns ∧ methodHeads f.content = ms.map fun n =>
    ⟨QualifiedName.qualify (o.packageOf n) (Naming.assertClass n), n.qualified⟩
  created : createdClasses f.content = (methodHeads f.content).map (·.result)
  results : ∀ m ∈ methodHeads f.content, ∃ package name,
    m.result = QualifiedName.qualify package name ∧ '.' ∉ name.toList ∧
      o.Provides files package name

/-- Whether the files of a run for some types are closed: what the sources refer to is there. -/
structure IsClosed (o : GenerationOptions) (c : Catalog) (ds : List TypeDecl)
    (files : List SourceFile) : Prop where
  /-- No type is there twice. -/
  nodup : (ds.map (·.name)).Nodup
  /-- Every abstract class is that for a type of the run. -/
  abstracts : ∀ f ∈ files, superclassesIn f.content ≠ [] →
    ∃ d ∈ ds, o.IsAbstractFile c ds files d f
  /-- If classes come in pairs, every type has an abstract class. -/
  pairs : o.hierarchical = true → ∀ d ∈ ds, ∃ f ∈ files, o.IsAbstractFile c ds files d f
  /-- The entry points stand behind the classes, one for each mode. -/
  names : (files.drop (ds.length * o.classesPerType)).map (·.name) =
    if ds = [] then [] else o.entryPoints.map EntryPointMode.defaultFile
  entryPoints : ∀ f ∈ files.drop (ds.length * o.classesPerType),
    o.IsEntryFile (ds.map (·.name)) files f

theorem Provides.mono {files' : List SourceFile} (hsub : files ⊆ files') {package name : String}
    (h : o.Provides files package name) : o.Provides files' package name := by
  obtain ⟨f, hf, hfile⟩ := h
  exact ⟨f, hsub hf, hfile⟩

/-! ## Files of classes -/

/-- A source for a surface declares no abstract class, or is that of the abstract assertion class,
    which is there exactly if classes come in pairs. -/
theorem IsDefault.superclassesIn_of_classFiles (ho : o.IsDefault) (hs : s.IsInline)
    (hn : s.subject.WellFormed) (hparent : ∀ parent ∈ s.parent, parent.WellFormed)
    (hbatch : ∀ n ∈ batch, n.WellFormed) (h : o.classFiles .default batch s = .ok files) :
    ∃ super, IsSuperclass batch s super ∧
      (∀ f ∈ files, superclassesIn f.content ≠ [] → o.hierarchical = true ∧
        f.IsFileOf o.outputDirectory (o.packageOf s.subject) s.abstractAssertClass ∧
          superclassesIn f.content = [super]) ∧
      (o.hierarchical = true → ∃ f ∈ files,
        f.IsFileOf o.outputDirectory (o.packageOf s.subject) s.abstractAssertClass ∧
          superclassesIn f.content = [super]) := by
  refine ⟨_, isSuperclass_superclass (w := (o.writer .default).toClassWriter) hparent hbatch, ?_⟩
  rw [classFiles] at h
  split at h
  · next hh =>
    obtain ⟨pair, hpair, h⟩ := bind_eq_ok_iff.1 h
    obtain rfl := Except.ok.inj h
    obtain ⟨pair', hpair', hfile, -⟩ := ho.writer.hierarchical_eq_ok hs hn batch
    obtain rfl := Except.ok.inj (hpair.symm.trans hpair')
    have hfile := hfile.isFileOf o.outputDirectory
    obtain ⟨habstract, hconcrete⟩ :=
      ho.writer.superclassesIn_hierarchical hs hn hparent hbatch hpair
    -- The first of the two files is that of the abstract class.
    refine ⟨fun f hf hne => ?_, fun _ => ⟨_, List.mem_cons_self .., hfile, habstract⟩⟩
    rcases List.mem_cons.1 hf with rfl | hf
    · exact ⟨hh, hfile, habstract⟩
    · rw [List.mem_singleton.1 hf] at hne
      exact absurd hconcrete hne
  · next hh =>
    obtain ⟨file, hfile, h⟩ := bind_eq_ok_iff.1 h
    obtain ⟨source, hsource, hfile⟩ := bind_eq_ok_iff.1 hfile
    obtain rfl := Except.ok.inj h
    obtain rfl := Except.ok.inj hfile
    refine ⟨fun f hf hne => ?_, fun hh' => absurd hh' hh⟩
    rw [List.mem_singleton.1 hf] at hne
    exact absurd (ho.writer.superclassesIn_flat hs hn hsource) hne

/-- The abstract class of a parent that is in the run is there. -/
theorem extendsProvided_of_isSuperclass {d : TypeDecl} {super : String}
    (hprovided : ∀ n ∈ ds.map (·.name), o.Provides files (o.packageOf n)
      (Naming.abstractAssertClass n))
    (h : IsSuperclass (ds.map (·.name)) (Surface.ofDeclaration c o.policy d) super) :
    o.ExtendsProvided c ds files d super := by
  rcases h with ⟨parent, hparent, hmem, rfl⟩ | h
  · exact .inl ⟨parent, hparent, hmem, rfl, hprovided parent hmem⟩
  · exact .inr h

section
variable (hc : c.Readable) (hi : c.hasIdentifiers = true) (ho : o.IsDefault)
  (hds : o.selection c = .ok ds) {classes : List (List SourceFile)}
  (hclasses : (ds.map (Surface.ofDeclaration c o.policy)).mapM
    (o.classFiles .default (ds.map (·.name))) = .ok classes)
include hc hi ho hds hclasses

/-- The classes for all types are there. -/
theorem provides_classes : ∀ n ∈ ds.map (·.name), ∀ name ∈ o.classesOf n,
    o.Provides classes.flatten (o.packageOf n) name := by
  intro n hn name hname
  obtain ⟨d, hd, rfl⟩ := List.mem_map.1 hn
  have hmem := List.mem_map_of_mem (f := Surface.ofDeclaration c o.policy) hd
  obtain ⟨hs, hwf, -⟩ := wellFormed_of_selection hc hi hds _ hmem
  obtain ⟨files, hfiles, hclass⟩ := exists_of_mem_of_mapM hclasses _ hmem
  obtain ⟨files', hfiles', hprovided, -⟩ := ho.classFiles_eq_ok (ds.map (·.name)) hs hwf
  obtain rfl := Except.ok.inj (hclass.symm.trans hfiles')
  obtain ⟨f, hf, hfile⟩ := hprovided name hname
  exact ⟨f, List.mem_flatten.2 ⟨files, hfiles, hf⟩, hfile⟩

/-- What the files for one type are, if the classes for all types are among some files. -/
theorem isAbstractFile_of_classFiles {all : List SourceFile} (hsub : classes.flatten ⊆ all)
    {d : TypeDecl} (hd : d ∈ ds) {files : List SourceFile}
    (h : o.classFiles .default (ds.map (·.name)) (Surface.ofDeclaration c o.policy d) =
      .ok files) :
    (∀ f ∈ files, superclassesIn f.content ≠ [] → o.IsAbstractFile c ds all d f) ∧
      (o.hierarchical = true → ∃ f ∈ files, o.IsAbstractFile c ds all d f) := by
  have hwf := wellFormed_of_selection hc hi hds
  have hbatch : ∀ n ∈ ds.map (·.name), n.WellFormed := by
    intro n hn
    obtain ⟨e, he, rfl⟩ := List.mem_map.1 hn
    exact (hwf _ (List.mem_map_of_mem he)).2.1
  obtain ⟨hs, hn, hparent⟩ := hwf _ (List.mem_map_of_mem hd)
  obtain ⟨super, hsuper, hall, hpair⟩ := ho.superclassesIn_of_classFiles hs hn hparent hbatch h
  have hextends : o.hierarchical = true → o.ExtendsProvided c ds all d super := by
    intro hh
    refine extendsProvided_of_isSuperclass (fun n hn => ?_) hsuper
    exact (provides_classes hc hi ho hds hclasses n hn _ (by simp [classesOf, hh])).mono hsub
  constructor
  · intro f hf hne
    obtain ⟨hh, hfile, hread⟩ := hall f hf hne
    exact ⟨hfile, super, hread, hextends hh⟩
  · intro hh
    obtain ⟨f, hf, hfile, hread⟩ := hpair hh
    exact ⟨f, hf, hfile, super, hread, hextends hh⟩

/-- What an entry point refers to is there, if the classes for all types are among some files. -/
theorem isEntryFile_of_entryPointFile? {all : List SourceFile} (hsub : classes.flatten ⊆ all)
    {mode : EntryPointMode} {f : SourceFile} (h : (o.writer .default).entryPointFile?
      (ds.map (Surface.ofDeclaration c o.policy)) mode = .ok (some f)) :
    o.IsEntryFile (ds.map (·.name)) all f ∧ superclassesIn f.content = [] := by
  have hwf := wellFormed_of_selection hc hi hds
  obtain ⟨hne, hsource, -, -⟩ := entryPointFile?_eq_ok h
  obtain ⟨hheads, hcreated⟩ :=
    methodHeads_source ho.writer (fun s hs => ⟨(hwf s hs).1, (hwf s hs).2.1⟩) hne hsource
  have hsubjects : (ds.map (Surface.ofDeclaration c o.policy)).map (·.subject) = ds.map (·.name) :=
    subjects_ofDeclaration o.policy
  refine ⟨?_, superclassesIn_source ho.writer (fun s hs => (hwf s hs).1) hne hsource⟩
  constructor
  · refine ⟨(inOrder (ds.map (Surface.ofDeclaration c o.policy))).map (·.subject), ?_, ?_⟩
    · -- The types are all different, so none is dropped behind the sorting.
      rw [← hsubjects]
      exact (perm_inOrder (hsubjects ▸ nodup_of_selection hc hds)).map _
    · rw [hheads, List.map_map]
      rfl
  · rw [hcreated, hheads, List.map_map]
    rfl
  · intro m hm
    rw [hheads] at hm
    obtain ⟨s, hs, rfl⟩ := List.mem_map.1 hm
    have hmem : s.subject ∈ ds.map (·.name) := by
      rw [← hsubjects, ← mem_subjects_inOrder]
      exact List.mem_map_of_mem hs
    have hprovided := provides_classes hc hi ho hds hclasses _ hmem s.assertClass
      (by rw [classesOf]; split <;> simp [Surface.assertClass])
    refine ⟨o.packageOf s.subject, s.assertClass, rfl, fun hdot => ?_, hprovided.mono hsub⟩
    have hn : s.subject.WellFormed := (hwf s (mem_sorted.1 (mem_of_mem_dropRepeats hs))).2.1
    exact absurd (isNameChar_assertClass hn '.' hdot) (by decide)

end

/-! ## Runs -/

/-- The names of the files of entry points, of which there are none without types. -/
theorem IsDefault.names_of_entryPointFiles (ho : o.IsDefault) {ss : List Surface}
    (hs : ∀ s ∈ ss, s.IsInline) {entryPoints : List (Option SourceFile)}
    (h : o.entryPoints.mapM ((o.writer .default).entryPointFile? ss) = .ok entryPoints) :
    (entryPoints.filterMap id).map (·.name) =
      if ss = [] then [] else o.entryPoints.map EntryPointMode.defaultFile := by
  -- Without types no mode has a file, and else each of them has one.
  have hnames : entryPoints.map (Option.map (·.name)) = o.entryPoints.map fun mode =>
      if ss = [] then none else some mode.defaultFile := by
    refine map_eq_of_mapM (fun mode _ file? hfile => ?_) h
    cases file? with
    | none =>
      obtain ⟨file?', hfile', hnone, -⟩ := ho.entryPointFile?_eq_ok hs mode
      obtain rfl := Except.ok.inj (hfile.symm.trans hfile')
      rw [if_pos (hnone rfl)]
      rfl
    | some f =>
      obtain ⟨hne, hsource, -, hname⟩ := GenerationOptions.entryPointFile?_eq_ok hfile
      rw [if_neg hne, Option.map_some, hname, fileName_eq_defaultFile ho.writer hs hne hsource]
  have hfilter := congrArg (List.filterMap id) hnames
  rw [List.filterMap_map, List.filterMap_map] at hfilter
  rw [List.map_filterMap]
  refine hfilter.trans ?_
  split
  · simp
  · simp

/-- The planned files are closed. -/
theorem IsDefault.isClosed_of_plan (ho : o.IsDefault) (hc : c.Readable)
    (hi : c.hasIdentifiers = true) {n : Nat} (h : o.plan c .default = .ok (n, files)) :
    ∃ ds, o.selection c = .ok ds ∧ n = ds.length ∧ o.IsClosed c ds files := by
  obtain ⟨ss, hss, rfl, hfiles⟩ := plan_eq_ok_iff.1 h
  obtain ⟨ds, hds, rfl⟩ := surfaces_eq_map hss
  obtain ⟨classes, entryPoints, hclasses, hentryPoints, rfl⟩ := sourceFiles_eq_ok_iff.1 hfiles
  have hwf := wellFormed_of_selection hc hi hds
  rw [subjects_ofDeclaration] at hclasses
  have hsub : classes.flatten ⊆ classes.flatten ++ entryPoints.filterMap id :=
    List.subset_append_left ..
  -- The number of classes tells where the entry points begin.
  have hdrop : (classes.flatten ++ entryPoints.filterMap id).drop (ds.length * o.classesPerType) =
      entryPoints.filterMap id := by
    have hlength := length_flatten_classFiles hclasses
    rw [List.length_map] at hlength
    rw [← hlength, List.drop_left]
  have habstract := fun d => isAbstractFile_of_classFiles hc hi ho hds hclasses hsub (d := d)
  have hentry := fun mode f =>
    @isEntryFile_of_entryPointFile? o c ds hc hi ho hds _ hclasses _ hsub mode f
  refine ⟨ds, hds, List.length_map .., ?_⟩
  constructor
  · exact nodup_of_selection hc hds
  · intro f hf hne
    rcases cases_of_mem_sourceFiles hfiles hf with ⟨s, hs, fs, hfs, hf⟩ | ⟨mode, -, hmode⟩
    · rw [subjects_ofDeclaration] at hfs
      obtain ⟨d, hd, rfl⟩ := List.mem_map.1 hs
      exact ⟨d, hd, (habstract d hd hfs).1 f hf hne⟩
    · exact absurd (hentry mode f hmode).2 hne
  · intro hh d hd
    obtain ⟨fs, hfs, hsfiles⟩ := exists_of_mem_of_mapM hclasses _ (List.mem_map_of_mem hd)
    obtain ⟨f, hf, hfile⟩ := (habstract d hd hsfiles).2 hh
    exact ⟨f, hsub (List.mem_flatten.2 ⟨fs, hfs, hf⟩), hfile⟩
  · rw [hdrop, ho.names_of_entryPointFiles (fun s hs => (hwf s hs).1) hentryPoints]
    simp only [List.map_eq_nil_iff]
  · intro f hf
    rw [hdrop] at hf
    obtain ⟨file?, hmem, hfile⟩ := List.mem_filterMap.1 hf
    obtain rfl : file? = some f := hfile
    obtain ⟨mode, -, hmode⟩ := mem_of_mapM hentryPoints _ hmem
    exact (hentry mode f hmode).1

/-- A run that succeeds with the default templates has planned the files that it reports. -/
theorem IsDefault.exists_plan_of_run (ho : o.IsDefault) {fs : FileSystem}
    {report : GenerationReport} (h : ((o.run c : StateM FileSystem _).run fs).1 = .ok report) :
    ∃ files, o.plan c .default = .ok (report.types, files) ∧
      report.files = files.map SourceFile.path := by
  obtain ⟨templates, files, hload, hplan, hfiles⟩ := run_eq_ok h
  rw [run_loadTemplates_of_none ho.templates] at hload
  obtain rfl := Except.ok.inj hload
  exact ⟨files, hplan, hfiles⟩

theorem Provides.mem_paths {package name : String} (h : o.Provides files package name) :
    under (packageDirectory o.outputDirectory package) (name ++ Naming.fileEnding) ∈
      files.map SourceFile.path := by
  obtain ⟨f, hf, hfile⟩ := h
  rw [← hfile.directory, ← hfile.file]
  exact List.mem_map_of_mem hf

/-- A run that succeeds reports files that are closed. Among them are those of the classes that
    abstract classes extend for parents in the run, and that entry points create objects of. -/
theorem isClosed_of_run {text : String} {fs : FileSystem} {report : GenerationReport}
    (hc : Catalog.parse text = .ok c) (hi : c.hasIdentifiers = true) (ho : o.IsDefault)
    (h : ((o.run c : StateM FileSystem _).run fs).1 = .ok report) :
    ∃ ds files, o.selection c = .ok ds ∧ report.types = ds.length ∧
      o.plan c .default = .ok (report.types, files) ∧
      report.files = files.map SourceFile.path ∧ o.IsClosed c ds files ∧
      ∀ package name, o.Provides files package name →
        under (packageDirectory o.outputDirectory package) (name ++ Naming.fileEnding) ∈
          report.files := by
  obtain ⟨files, hplan, hfiles⟩ := ho.exists_plan_of_run h
  obtain ⟨ds, hds, hcount, hclosed⟩ := ho.isClosed_of_plan (Catalog.readable_of_parse hc) hi hplan
  exact ⟨ds, files, hds, hcount, hplan, hfiles, hclosed, fun _ _ hprovided =>
    hfiles ▸ hprovided.mem_paths⟩

end GenerationOptions

/-! ## A run for a class and its parent -/

namespace Catalog

/-- A class. -/
def parentClass : TypeDecl where
  name := ⟨"p", [], "Base"⟩

/-- A class in another package that extends it. -/
def childClass : TypeDecl where
  name := ⟨"q", [], "Derived"⟩
  superclass := some (.raw parentClass.name)

/-- A catalog of the two. -/
def family : Catalog := .ofList [childClass, parentClass]

theorem decls_family : family.decls = [childClass, parentClass] := by decide

theorem readable_family : family.Readable := by
  have hparent : QualifiedName.parse? "p.Base" = some parentClass.name := by decide
  have hchild : QualifiedName.parse? "q.Derived" = some childClass.name := by decide
  intro d hd
  rw [decls_family, List.mem_cons, List.mem_singleton] at hd
  rcases hd with rfl | rfl
  · refine ⟨QualifiedName.wellFormed_of_parse? hchild, fun t ht => ?_, ?_, ?_, ?_⟩
    · obtain rfl := Option.some.inj ht
      exact JavaType.readable_raw hparent
    all_goals simp [childClass]
  · refine ⟨QualifiedName.wellFormed_of_parse? hparent, ?_, ?_, ?_, ?_⟩ <;> simp [parentClass]

theorem parse_family : parse family.toText = .ok family :=
  parse_toText_of_reread readable_family (by decide)

theorem hasIdentifiers_family : family.hasIdentifiers = true := by decide

end Catalog

namespace GenerationOptions

/-- Options for pairs of classes and an entry point, all in the working directory. -/
def pairsInPlace : GenerationOptions :=
  { allTypes with
    outputDirectory := ""
    package := some ""
    hierarchical := true
    entryPoints := [.standard] }

theorem isDefault_pairsInPlace : pairsInPlace.IsDefault := by
  refine ⟨rfl, fun package hp => ?_⟩
  obtain rfl := Option.some.inj hp
  decide

/-- The files for the two types. -/
def familyFiles : List String := ["AbstractDerivedAssert.java", "DerivedAssert.java",
  "AbstractBaseAssert.java", "BaseAssert.java", "Assertions.java"]

theorem places_family {n : Nat} {files : List SourceFile}
    (h : pairsInPlace.plan Catalog.family .default = .ok (n, files)) :
    ∀ f ∈ files, f.directory = "" ∧ f.name ∈ familyFiles := by
  obtain ⟨ss, hss, -, hfiles⟩ := plan_eq_ok_iff.1 h
  obtain ⟨ds, hds, rfl⟩ := surfaces_eq_map hss
  have hclass : ∀ d ∈ [Catalog.childClass, Catalog.parentClass],
      ∀ name ∈ pairsInPlace.classesOf d.name, name ++ Naming.fileEnding ∈ familyFiles := by decide
  intro f hf
  rcases cases_of_mem_sourceFiles hfiles hf with ⟨s, hs, fs, hfs, hf⟩ | ⟨mode, hmode, hentry⟩
  · obtain ⟨d, hd, rfl⟩ := List.mem_map.1 hs
    obtain ⟨name, hname, hdirectory, hfile⟩ := exists_place_of_classFiles hfs f hf
    refine ⟨hdirectory, ?_⟩
    rw [hfile]
    exact hclass d (Catalog.decls_family ▸ mem_of_selection hds d hd) name hname
  · obtain rfl := List.mem_singleton.1 hmode
    obtain ⟨hne, hsource, hdirectory, hname⟩ := entryPointFile?_eq_ok hentry
    have hwf := wellFormed_of_selection Catalog.readable_family Catalog.hasIdentifiers_family hds
    rw [fileName_eq_defaultFile isDefault_pairsInPlace.writer (fun s hs => (hwf s hs).1) hne
      hsource] at hname
    refine ⟨hdirectory, ?_⟩
    rw [hname]
    decide

theorem isFileName_of_mem_familyFiles {name : String} (h : name ∈ familyFiles) :
    IsFileName name := by
  have hall : ∀ name ∈ familyFiles, isPlainSegment name.toList = true ∧ name ≠ "." ∧ name ≠ ".." ∧
      name.isEmpty = false ∧ name.toList.contains '\x00' = false ∧ name.utf8ByteSize ≤ maxName := by
    decide
  obtain ⟨hsegment, hdot, hup, hempty, hzero, hshort⟩ := hall name h
  refine ⟨⟨hsegment, hdot, hup⟩, ?_, hshort⟩
  have hpath : ¬maxPath < name.utf8ByteSize := Nat.not_lt.2 (hshort.trans (by decide))
  rw [checkPath, if_neg (by simp [hempty]), if_neg (by rw [hzero]; decide), if_neg hpath]

/-- Both types have a pair of classes, and all files can be written. -/
theorem exists_run_family : ∃ report,
    ((pairsInPlace.run Catalog.family : StateM FileSystem _).run FileSystem.empty).1 =
      .ok report := by
  have ho := isDefault_pairsInPlace
  obtain ⟨ss, hss⟩ := exists_surfaces (o := pairsInPlace) (c := Catalog.family) rfl
  obtain ⟨files, hplan, -⟩ :=
    ho.plan_eq_ok Catalog.readable_family Catalog.hasIdentifiers_family hss
  obtain ⟨paths, hpaths⟩ := takesFiles_empty.exists_writeAll fun f hf =>
    ⟨(places_family hplan f hf).1, isFileName_of_mem_familyFiles (places_family hplan f hf).2⟩
  rw [run_of_plan_eq_ok (run_loadTemplates_of_none rfl _) hplan, hpaths]
  exact ⟨_, rfl⟩

theorem isClosed_of_run_family :
    Catalog.parse Catalog.family.toText = .ok Catalog.family ∧
      Catalog.family.hasIdentifiers = true ∧ pairsInPlace.IsDefault ∧
      ∃ report, ((pairsInPlace.run Catalog.family : StateM FileSystem _).run
          FileSystem.empty).1 = .ok report ∧
        ∃ ds files, pairsInPlace.selection Catalog.family = .ok ds ∧ report.types = ds.length ∧
          pairsInPlace.plan Catalog.family .default = .ok (report.types, files) ∧
          report.files = files.map SourceFile.path ∧
          pairsInPlace.IsClosed Catalog.family ds files ∧
          ∀ package name, pairsInPlace.Provides files package name →
            under (packageDirectory "" package) (name ++ Naming.fileEnding) ∈ report.files := by
  obtain ⟨report, hreport⟩ := exists_run_family
  have hi := Catalog.hasIdentifiers_family
  have ho := isDefault_pairsInPlace
  exact ⟨Catalog.parse_family, hi, ho, report, hreport,
    isClosed_of_run Catalog.parse_family hi ho hreport⟩

end GenerationOptions
end AssertionWriter
