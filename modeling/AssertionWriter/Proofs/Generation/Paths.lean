/-
  AssertionWriter.Proofs.Generation.Paths

  Where the classes of a run go. The path of a class tells its package and its name, so
  two types lose a class to each other just if their classes go to one package and the
  flat names of the types make the names of two classes the same.
-/
import AssertionWriter.Proofs.Files.Paths
import AssertionWriter.Proofs.Generation.Sources

namespace AssertionWriter
open Files Template Text

namespace GenerationOptions

/-! ## The classes of a type -/

/-- The package of the classes for a type. -/
def packageOf (o : GenerationOptions) (n : QualifiedName) : String := o.package.getD n.package

/-- The classes for a type. -/
def classesOf (o : GenerationOptions) (n : QualifiedName) : List String :=
  if o.hierarchical then [Naming.abstractAssertClass n, Naming.assertClass n]
  else [Naming.assertClass n]

/-- The path of a class for a type. -/
def classPath (o : GenerationOptions) (n : QualifiedName) (name : String) : String :=
  under (packageDirectory o.outputDirectory (o.packageOf n)) (name ++ Naming.fileEnding)

/-- The paths of the classes for a type. -/
def classPaths (o : GenerationOptions) (n : QualifiedName) : List String :=
  (o.classesOf n).map (o.classPath n)

/-- Whether no class for the one type takes the place of a class for the other. -/
def Apart (o : GenerationOptions) (n m : QualifiedName) : Prop :=
  o.packageOf n = o.packageOf m →
    n.flatName ≠ m.flatName ∧
      (o.hierarchical = true →
        n.flatName ≠ "Abstract" ++ m.flatName ∧ m.flatName ≠ "Abstract" ++ n.flatName)

/-- The number of classes for each type. -/
def classesPerType (o : GenerationOptions) : Nat := if o.hierarchical then 2 else 1

theorem length_classPaths (o : GenerationOptions) (n : QualifiedName) :
    (o.classPaths n).length = o.classesPerType := by
  rw [classPaths, List.length_map, classesOf, classesPerType]
  split <;> rfl

theorem length_flatMap_classPaths (o : GenerationOptions) (ns : List QualifiedName) :
    (ns.flatMap o.classPaths).length = ns.length * o.classesPerType := by
  induction ns with
  | nil => simp
  | cons n ns ih =>
    rw [List.flatMap_cons, List.length_append, ih, length_classPaths, List.length_cons,
      Nat.succ_mul]
    omega

/-- The files for a surface lie where the classes for its subject belong. -/
theorem places_of_classFiles {o : GenerationOptions} {templates : TemplateSet}
    {batch : List QualifiedName} {s : Surface} {files : List SourceFile}
    (h : o.classFiles templates batch s = .ok files) :
    files.map (fun f => (f.directory, f.name)) = (o.classesOf s.subject).map fun name =>
      (packageDirectory o.outputDirectory (o.packageOf s.subject), name ++ Naming.fileEnding) := by
  rw [classFiles] at h
  rw [classesOf]
  split at h
  · next hh =>
    obtain ⟨pair, -, h⟩ := bind_eq_ok_iff.1 h
    obtain rfl := Except.ok.inj h
    rw [if_pos hh]
    rfl
  · next hh =>
    obtain ⟨file, hfile, h⟩ := bind_eq_ok_iff.1 h
    obtain rfl := Except.ok.inj h
    obtain ⟨source, -, hfile⟩ := bind_eq_ok_iff.1 hfile
    obtain rfl := Except.ok.inj hfile
    rw [if_neg hh]
    rfl

theorem exists_place_of_classFiles {o : GenerationOptions} {templates : TemplateSet}
    {batch : List QualifiedName} {s : Surface} {files : List SourceFile}
    (h : o.classFiles templates batch s = .ok files) :
    ∀ f ∈ files, ∃ name ∈ o.classesOf s.subject,
      f.directory = packageDirectory o.outputDirectory (o.packageOf s.subject) ∧
        f.name = name ++ Naming.fileEnding := by
  intro f hf
  have hplace := List.mem_map_of_mem (f := fun f : SourceFile => (f.directory, f.name)) hf
  rw [places_of_classFiles h] at hplace
  obtain ⟨name, hname, hplace⟩ := List.mem_map.1 hplace
  obtain ⟨hdirectory, hfile⟩ := Prod.mk.inj hplace
  exact ⟨name, hname, hdirectory.symm, hfile.symm⟩

/-- The files for a surface have the paths of the classes for its subject. -/
theorem paths_of_classFiles {o : GenerationOptions} {templates : TemplateSet}
    {batch : List QualifiedName} {s : Surface} {files : List SourceFile}
    (h : o.classFiles templates batch s = .ok files) :
    files.map SourceFile.path = o.classPaths s.subject := by
  have hpaths := congrArg (List.map fun place : String × String => under place.1 place.2)
    (places_of_classFiles h)
  rw [List.map_map, List.map_map] at hpaths
  exact hpaths

/-- The files for some surfaces have the paths of the classes, subject by subject. -/
theorem paths_flatten_classFiles {o : GenerationOptions} {templates : TemplateSet}
    {batch : List QualifiedName} {ss : List Surface} {classes : List (List SourceFile)}
    (h : ss.mapM (o.classFiles templates batch) = .ok classes) :
    classes.flatten.map SourceFile.path = (ss.map (·.subject)).flatMap o.classPaths := by
  have hmap := map_eq_of_mapM (fun _ _ _ hs => paths_of_classFiles hs) h
  rw [List.map_flatten, hmap, List.flatMap_def, List.map_map]
  rfl

/-- Every type has the same number of classes, so the count tells where the entry points begin. -/
theorem length_flatten_classFiles {o : GenerationOptions} {templates : TemplateSet}
    {batch : List QualifiedName} {ss : List Surface} {classes : List (List SourceFile)}
    (h : ss.mapM (o.classFiles templates batch) = .ok classes) :
    classes.flatten.length = ss.length * o.classesPerType := by
  have hlength := congrArg List.length (paths_flatten_classFiles h)
  rwa [List.length_map, length_flatMap_classPaths, List.length_map] at hlength

/-- The report of a run begins with the paths of the classes, type by type. -/
theorem files_of_run {o : GenerationOptions} {c : Catalog} {fs : FileSystem}
    {report : GenerationReport}
    (h : ((o.run c : StateM FileSystem _).run fs).1 = .ok report) :
    ∃ ds, o.selection c = .ok ds ∧ report.types = ds.length ∧
      report.files.take (report.types * o.classesPerType) =
        (ds.map (·.name)).flatMap o.classPaths := by
  obtain ⟨templates, files, -, hplan, hfiles⟩ := run_eq_ok h
  obtain ⟨ss, hss, htypes, hsources⟩ := plan_eq_ok_iff.1 hplan
  obtain ⟨ds, hds, rfl⟩ := surfaces_eq_map hss
  obtain ⟨classes, entryPoints, hclasses, -, rfl⟩ := sourceFiles_eq_ok_iff.1 hsources
  have hcount : (classes.flatten.map SourceFile.path).length = report.types * o.classesPerType := by
    rw [List.length_map, length_flatten_classFiles hclasses, htypes]
  refine ⟨ds, hds, htypes.trans (List.length_map ..), ?_⟩
  rw [hfiles, List.map_append, ← hcount, List.take_left, paths_flatten_classFiles hclasses,
    subjects_ofDeclaration]

/-! ## Paths of different types -/

theorem assertClass_inj {n m : QualifiedName} :
    Naming.assertClass n = Naming.assertClass m ↔ n.flatName = m.flatName := by
  simp [Naming.assertClass, ← String.toList_inj]

theorem abstractAssertClass_inj {n m : QualifiedName} :
    Naming.abstractAssertClass n = Naming.abstractAssertClass m ↔ n.flatName = m.flatName := by
  simp [Naming.abstractAssertClass, Naming.assertClass, ← String.toList_inj]

theorem abstractAssertClass_eq_assertClass {n m : QualifiedName} :
    Naming.abstractAssertClass n = Naming.assertClass m ↔
      m.flatName = "Abstract" ++ n.flatName := by
  rw [Naming.abstractAssertClass, Naming.assertClass, Naming.assertClass, ← String.append_assoc,
    eq_comm]
  simp only [← String.toList_inj, String.toList_append, List.append_cancel_right_eq]

/-- No class for the one type is a class for the other. -/
theorem classesOf_disjoint_iff {o : GenerationOptions} {n m : QualifiedName} :
    (∀ s ∈ o.classesOf n, ∀ t ∈ o.classesOf m, s ≠ t) ↔
      n.flatName ≠ m.flatName ∧
        (o.hierarchical = true →
          n.flatName ≠ "Abstract" ++ m.flatName ∧ m.flatName ≠ "Abstract" ++ n.flatName) := by
  rw [classesOf, classesOf]
  split
  · next hh =>
    -- Two classes against two: the flat names, or one of them behind `Abstract`.
    have hswap : Naming.assertClass n = Naming.abstractAssertClass m ↔
        n.flatName = "Abstract" ++ m.flatName := by
      rw [eq_comm, abstractAssertClass_eq_assertClass]
    simp only [List.mem_cons, List.not_mem_nil, or_false, forall_eq_or_imp, forall_eq, ne_eq,
      abstractAssertClass_inj, abstractAssertClass_eq_assertClass, assertClass_inj, hswap, hh,
      true_imp_iff]
    constructor
    · rintro ⟨⟨hflat, habstract⟩, hconcrete, -⟩
      exact ⟨hflat, hconcrete, habstract⟩
    · rintro ⟨hflat, hconcrete, habstract⟩
      exact ⟨⟨hflat, habstract⟩, hconcrete, hflat⟩
  · next hh =>
    simp [assertClass_inj, hh]

theorem isPlainSegment_fileName {n : QualifiedName} (h : n.WellFormed) {o : GenerationOptions}
    {name : String} (hname : name ∈ o.classesOf n) :
    isPlainSegment (name ++ Naming.fileEnding).toList = true := by
  have hflat : '/' ∉ n.flatName.toList := fun hmem =>
    absurd (h.isNameChar_flatName.2 '/' hmem) (by decide)
  have hclass : name = Naming.abstractAssertClass n ∨ name = Naming.assertClass n := by
    rw [classesOf] at hname
    split at hname
    · simpa using hname
    · exact .inr (List.mem_singleton.1 hname)
  rcases hclass with rfl | rfl
  · simp [isPlainSegment, Naming.abstractAssertClass, Naming.assertClass, Naming.fileEnding, hflat]
  · simp [isPlainSegment, Naming.assertClass, Naming.fileEnding, hflat]

/-- Two classes have one path just if they are in one package and have one name. -/
theorem classPath_eq_iff {o : GenerationOptions} {n m : QualifiedName} (hn : n.WellFormed)
    (hm : m.WellFormed) {s t : String} (hs : s ∈ o.classesOf n) (ht : t ∈ o.classesOf m) :
    o.classPath n s = o.classPath m t ↔ o.packageOf n = o.packageOf m ∧ s = t := by
  have hsplain := isPlainSegment_fileName hn hs
  have htplain := isPlainSegment_fileName hm ht
  have hending : s ++ Naming.fileEnding = t ++ Naming.fileEnding ↔ s = t := by
    simp [← String.toList_inj]
  rw [classPath, classPath, packageOf, packageOf]
  cases hpackage : o.package with
  | some p =>
    -- All classes are in one directory.
    have hshead := head?_ne_of_isPlainSegment hsplain
    have hthead := head?_ne_of_isPlainSegment htplain
    rw [String.ofList_toList] at hshead hthead
    rw [Option.getD_some, Option.getD_some, under_inj hshead hthead, hending]
    exact (and_iff_right rfl).symm
  | none =>
    rw [Option.getD_none, Option.getD_none, under_packageDirectory_inj
      hn.isPlainSegment_packageParts hm.isPlainSegment_packageParts hsplain htplain, hending,
      hn.packageParts_inj hm]

/-- The classes for two types have different paths just if the types are apart. -/
theorem classPaths_disjoint_iff {o : GenerationOptions} {n m : QualifiedName} (hn : n.WellFormed)
    (hm : m.WellFormed) :
    (∀ p ∈ o.classPaths n, ∀ q ∈ o.classPaths m, p ≠ q) ↔ o.Apart n m := by
  rw [Apart, ← classesOf_disjoint_iff]
  constructor
  · intro h hpackage s hs t ht hst
    refine h _ (List.mem_map_of_mem hs) _ (List.mem_map_of_mem ht) ?_
    exact (classPath_eq_iff hn hm hs ht).2 ⟨hpackage, hst⟩
  · intro h p hp q hq hpq
    obtain ⟨s, hs, rfl⟩ := List.mem_map.1 hp
    obtain ⟨t, ht, rfl⟩ := List.mem_map.1 hq
    obtain ⟨hpackage, hst⟩ := (classPath_eq_iff hn hm hs ht).1 hpq
    exact h hpackage s hs t ht hst

/-- The two classes of one type have different paths. -/
theorem nodup_classPaths {o : GenerationOptions} {n : QualifiedName} (h : n.WellFormed) :
    (o.classPaths n).Nodup := by
  rw [classPaths, classesOf]
  split
  · next hh =>
    have hne : o.classPath n (Naming.abstractAssertClass n) ≠
        o.classPath n (Naming.assertClass n) := by
      rw [Ne, classPath_eq_iff h h (by simp [classesOf, hh]) (by simp [classesOf, hh])]
      rintro ⟨-, heq⟩
      have hflat := congrArg (fun s => s.toList.length) (abstractAssertClass_eq_assertClass.1 heq)
      simp only [String.toList_append, List.length_append] at hflat
      have hlead : "Abstract".toList.length = 8 := by decide
      omega
    simpa using hne
  · simp

/-! ## Runs -/

/-- The classes of a run that succeeds have different paths just if the types are apart. -/
theorem nodup_classFiles_iff {text : String} {o : GenerationOptions} {c : Catalog}
    {fs : FileSystem} {report : GenerationReport} (hc : Catalog.parse text = .ok c)
    (h : ((o.run c : StateM FileSystem _).run fs).1 = .ok report) :
    ∃ ds, o.selection c = .ok ds ∧ report.types = ds.length ∧
      ((report.files.take (report.types * o.classesPerType)).Nodup ↔
        ds.Pairwise fun d e => o.Apart d.name e.name) := by
  obtain ⟨ds, hds, htypes, hfiles⟩ := files_of_run h
  have hwf : ∀ d ∈ ds, d.name.WellFormed := fun d hd =>
    (Catalog.readable_of_parse hc d (mem_of_selection hds d hd)).name
  refine ⟨ds, hds, htypes, ?_⟩
  -- The classes of one type never meet, so only pairs of types are left.
  rw [hfiles, List.Nodup, List.pairwise_flatMap]
  have hsingle : ∀ n ∈ ds.map (·.name), (o.classPaths n).Pairwise (· ≠ ·) := by
    intro n hn
    obtain ⟨d, hd, rfl⟩ := List.mem_map.1 hn
    exact nodup_classPaths (hwf d hd)
  rw [and_iff_right hsingle, List.pairwise_map]
  exact List.Pairwise.iff_of_mem fun hd he => classPaths_disjoint_iff (hwf _ hd) (hwf _ he)

/-! ## A lost class -/

/-- A file system with the directory of the package. -/
def withDirectory : FileSystem :=
  (FileSystem.empty.put ["work", "out"] .directory).put ["work", "out", "p"] .directory

/-- The file system with one class in that directory. -/
def withClass (text : String) : FileSystem :=
  withDirectory.put ["work", "out", "p", "ABAssert.java"] (.file (.text text))

/-- A class is written, and another one in its place. -/
theorem run_writeAll_withClass (text other : String) :
    (SourceFile.writeAll [⟨"out/p", "ABAssert.java", text⟩, ⟨"out/p", "ABAssert.java", other⟩] :
      StateM FileSystem _).run FileSystem.empty =
        (.ok ["out/p/ABAssert.java", "out/p/ABAssert.java"], withClass other) := by
  have hpath : ∀ content, SourceFile.path ⟨"out/p", "ABAssert.java", content⟩ =
      "out/p/ABAssert.java" := by
    have hunder : under "out/p" "ABAssert.java" = "out/p/ABAssert.java" := by rfl
    exact fun _ => hunder
  have hmade : (makeDirectories "out/p" : StateM FileSystem _).run FileSystem.empty =
      (.ok (), withDirectory) := by rfl
  have hkept : (makeDirectories "out/p" : StateM FileSystem _).run (withClass text) =
      (.ok (), withClass text) := by rfl
  have hfirst : (SourceFile.write ⟨"out/p", "ABAssert.java", text⟩ : StateM FileSystem _).run
      FileSystem.empty = (.ok (SourceFile.path ⟨"out/p", "ABAssert.java", text⟩),
        withClass text) := by
    refine run_write hmade ?_
    rw [hpath]
    rfl
  have hagain : (SourceFile.write ⟨"out/p", "ABAssert.java", other⟩ : StateM FileSystem _).run
      (withClass text) = (.ok (SourceFile.path ⟨"out/p", "ABAssert.java", other⟩),
        withClass other) := by
    refine run_write hkept ?_
    rw [hpath]
    rfl
  have hnone : (SourceFile.writeAll [] : StateM FileSystem _).run (withClass other) =
      (.ok [], withClass other) := rfl
  rw [run_writeAll_cons hfirst (run_writeAll_cons hagain hnone), hpath, hpath]

/-- The file of the class for either of the two types. -/
theorem classFiles_sameFlatNames {d : TypeDecl}
    (hd : d = Catalog.nestedClass ∨ d = Catalog.flatClass) :
    ∃ text, ∀ batch, allTypes.classFiles .default batch
      (Surface.ofDeclaration Catalog.sameFlatNames allTypes.policy d) =
        .ok [⟨"out/p", "ABAssert.java", text⟩] := by
  have hw : ClassWriter.IsDefault ⟨.default, none⟩ := ⟨rfl, fun _ hp => absurd hp (by simp)⟩
  have hdescribed := Catalog.isDescribed_sameFlatNames hd allTypes.policy
  obtain ⟨text, htext, -⟩ := hw.flat_eq_ok
    (hdescribed.isInline Catalog.readable_sameFlatNames Catalog.hasIdentifiers_sameFlatNames)
    (hdescribed.wellFormed Catalog.readable_sameFlatNames)
  have hwriter : (allTypes.writer .default).toClassWriter = ⟨.default, none⟩ := rfl
  refine ⟨text, fun batch => ?_⟩
  rw [classFiles, if_neg (by decide), SourceWriter.flatFile, hwriter, htext]
  rcases hd with rfl | rfl
  · rfl
  · rfl

theorem plan_sameFlatNames : ∃ text other, allTypes.plan Catalog.sameFlatNames .default =
    .ok (2, [⟨"out/p", "ABAssert.java", text⟩, ⟨"out/p", "ABAssert.java", other⟩]) := by
  obtain ⟨text, htext⟩ := classFiles_sameFlatNames (.inl rfl)
  obtain ⟨other, hother⟩ := classFiles_sameFlatNames (.inr rfl)
  have hclasses : ∀ batch, ([
      Surface.ofDeclaration Catalog.sameFlatNames allTypes.policy Catalog.nestedClass,
      Surface.ofDeclaration Catalog.sameFlatNames allTypes.policy Catalog.flatClass].mapM
        (allTypes.classFiles .default batch)) =
      .ok [[⟨"out/p", "ABAssert.java", text⟩], [⟨"out/p", "ABAssert.java", other⟩]] := by
    intro batch
    rw [List.mapM_cons, htext, List.mapM_cons, hother]
    rfl
  refine ⟨text, other, plan_eq_ok_iff.2 ⟨_, surfaces_sameFlatNames rfl, rfl, ?_⟩⟩
  exact sourceFiles_eq_ok_iff.2 ⟨_, [], hclasses _, rfl, rfl⟩

/-- The two types have one flat name, so the class of the first is lost to that of the second. -/
theorem run_sameFlatNames :
    ((allTypes.run Catalog.sameFlatNames : StateM FileSystem _).run FileSystem.empty).1 =
      .ok ⟨2, ["out/p/ABAssert.java", "out/p/ABAssert.java"]⟩ := by
  obtain ⟨text, other, hplan⟩ := plan_sameFlatNames
  rw [run_of_plan_eq_ok (run_loadTemplates_of_none rfl _) hplan, run_writeAll_withClass]
  rfl

theorem nodup_classFiles_iff_sameFlatNames :
    Catalog.parse Catalog.sameFlatNames.toText = .ok Catalog.sameFlatNames ∧
      ((allTypes.run Catalog.sameFlatNames : StateM FileSystem _).run FileSystem.empty).1 =
        .ok ⟨2, ["out/p/ABAssert.java", "out/p/ABAssert.java"]⟩ ∧
      ∃ ds, allTypes.selection Catalog.sameFlatNames = .ok ds ∧ 2 = ds.length ∧
        ((["out/p/ABAssert.java", "out/p/ABAssert.java"].take (2 * allTypes.classesPerType)).Nodup ↔
          ds.Pairwise fun d e => allTypes.Apart d.name e.name) :=
  ⟨Catalog.parse_sameFlatNames, run_sameFlatNames,
    nodup_classFiles_iff Catalog.parse_sameFlatNames run_sameFlatNames⟩

/-- A run that succeeds may write two classes to one path. -/
theorem exists_not_nodup_classFiles : ∃ (text : String) (c : Catalog) (o : GenerationOptions)
    (fs : FileSystem) (report : GenerationReport), Catalog.parse text = .ok c ∧
      ((o.run c : StateM FileSystem _).run fs).1 = .ok report ∧
      ¬(report.files.take (report.types * o.classesPerType)).Nodup :=
  ⟨_, _, allTypes, _, _, Catalog.parse_sameFlatNames, run_sameFlatNames, by decide⟩

end GenerationOptions
end AssertionWriter
