/-
  AssertionWriter.Proofs.Generation.Plan

  What a run that succeeds has done: it has made a plan for the declarations that are
  selected, and its report names the paths of the planned files, those of the classes
  first.
-/
import AssertionWriter.Files.FileSystem
import AssertionWriter.Generation.Run
import AssertionWriter.Proofs.Catalog.Selection
import AssertionWriter.Proofs.Surface.Inline

namespace AssertionWriter
open Files Template

namespace GenerationOptions

/-! ## Selected declarations -/

/-- Only eligible declarations are selected. -/
theorem mem_selectAll_of_selection {o : GenerationOptions} {c : Catalog} {ds : List TypeDecl}
    (h : o.selection c = .ok ds) : ∀ d ∈ ds, d ∈ c.selectAll := by
  intro d hd
  rw [selection] at h
  split at h
  · obtain rfl := Except.ok.inj h
    exact hd
  · obtain ⟨request, -, hrequest⟩ := Catalog.exists_request_of_select h hd
    exact Catalog.mem_selectAll_of_mem_requested hrequest

theorem mem_of_selection {o : GenerationOptions} {c : Catalog} {ds : List TypeDecl}
    (h : o.selection c = .ok ds) : ∀ d ∈ ds, d ∈ c.decls :=
  fun d hd => (Catalog.mem_selectAll.1 (mem_selectAll_of_selection h d hd)).1

/-- The selected declarations have different names. -/
theorem nodup_of_selection {o : GenerationOptions} {c : Catalog} (hc : c.Readable)
    {ds : List TypeDecl} (h : o.selection c = .ok ds) : (ds.map (·.name)).Nodup := by
  have hascending : Catalog.Ascending ds := by
    rw [selection] at h
    split at h
    · obtain rfl := Except.ok.inj h
      exact Catalog.ascending_selectAll hc
    · exact ((Catalog.select_eq_ok_iff hc).1 h).ascending
  refine List.pairwise_map.2 (hascending.imp fun hlt heq => ?_)
  rw [heq, Std.ReflOrd.compare_self] at hlt
  cases hlt

/-- The surfaces are those of the selected declarations, in their order. -/
theorem surfaces_eq_map {o : GenerationOptions} {c : Catalog} {ss : List Surface}
    (h : o.surfaces c = .ok ss) :
    ∃ ds, o.selection c = .ok ds ∧ ss = ds.map (Surface.ofDeclaration c o.policy) := by
  obtain ⟨ds, hds, hmap⟩ := bind_eq_ok_iff.1 h
  refine ⟨ds, hds, ?_⟩
  have hdescribed := map_eq_of_mapM (k := id) (g := Surface.ofDeclaration c o.policy)
    (fun d hd s hs => by
      obtain ⟨e, he, hname, rfl⟩ := Surface.describe_eq_ok hs
      rw [Catalog.eq_of_name_eq he (mem_of_selection hds d hd) hname]
      rfl) hmap
  rwa [List.map_id] at hdescribed

/-- What is described for the selected declarations can be written, with well-formed names. -/
theorem wellFormed_of_selection {o : GenerationOptions} {c : Catalog} (hc : c.Readable)
    (hi : c.hasIdentifiers = true) {ds : List TypeDecl} (h : o.selection c = .ok ds) :
    ∀ s ∈ ds.map (Surface.ofDeclaration c o.policy),
      s.IsInline ∧ s.subject.WellFormed ∧ ∀ parent ∈ s.parent, parent.WellFormed := by
  intro s hs
  obtain ⟨d, hd, rfl⟩ := List.mem_map.1 hs
  have hmem := mem_of_selection h d hd
  exact ⟨Surface.isInline_ofDeclaration (fun e he => Catalog.isInline_of_readable hc hi he) o.policy
    hmem, (hc d hmem).name, Surface.wellFormed_of_mem_parent hc hmem⟩

/-- The subjects of a run are the names of its types. -/
theorem subjects_ofDeclaration {c : Catalog} {ds : List TypeDecl} (policy : DescriptionPolicy) :
    (ds.map (Surface.ofDeclaration c policy)).map (·.subject) = ds.map (·.name) := by
  rw [List.map_map]
  rfl

/-! ## Planned files -/

/-- A plan is made of the files for the surfaces. -/
theorem plan_eq_ok_iff {o : GenerationOptions} {c : Catalog} {templates : TemplateSet} {n : Nat}
    {files : List SourceFile} :
    o.plan c templates = .ok (n, files) ↔
      ∃ ss, o.surfaces c = .ok ss ∧ n = ss.length ∧ o.sourceFiles templates ss = .ok files := by
  constructor
  · intro h
    obtain ⟨ss, hss, h⟩ := bind_eq_ok_iff.1 h
    obtain ⟨fs, hfs, h⟩ := bind_eq_ok_iff.1 h
    cases h
    exact ⟨ss, mapError_eq_ok_iff.1 hss, rfl, mapError_eq_ok_iff.1 hfs⟩
  · rintro ⟨ss, hss, rfl, hfiles⟩
    refine bind_eq_ok_iff.2 ⟨ss, mapError_eq_ok_iff.2 hss, ?_⟩
    exact bind_eq_ok_iff.2 ⟨files, mapError_eq_ok_iff.2 hfiles, rfl⟩

/-- The files are those of the classes, and behind them those of the entry points. -/
theorem sourceFiles_eq_ok_iff {o : GenerationOptions} {templates : TemplateSet} {ss : List Surface}
    {files : List SourceFile} :
    o.sourceFiles templates ss = .ok files ↔ ∃ classes entryPoints,
      ss.mapM (o.classFiles templates (ss.map (·.subject))) = .ok classes ∧
      o.entryPoints.mapM ((o.writer templates).entryPointFile? ss) = .ok entryPoints ∧
      files = classes.flatten ++ entryPoints.filterMap id := by
  constructor
  · intro h
    obtain ⟨classes, hclasses, h⟩ := bind_eq_ok_iff.1 h
    obtain ⟨entryPoints, hentryPoints, h⟩ := bind_eq_ok_iff.1 h
    exact ⟨classes, entryPoints, hclasses, hentryPoints, (Except.ok.inj h).symm⟩
  · rintro ⟨classes, entryPoints, hclasses, hentryPoints, rfl⟩
    refine bind_eq_ok_iff.2 ⟨classes, hclasses, ?_⟩
    exact bind_eq_ok_iff.2 ⟨entryPoints, hentryPoints, rfl⟩

/-- Each of the files is one of those for a surface, or that of an entry point. -/
theorem cases_of_mem_sourceFiles {o : GenerationOptions} {templates : TemplateSet}
    {ss : List Surface} {files : List SourceFile} (h : o.sourceFiles templates ss = .ok files)
    {f : SourceFile} (hf : f ∈ files) :
    (∃ s ∈ ss, ∃ fs, o.classFiles templates (ss.map (·.subject)) s = .ok fs ∧ f ∈ fs) ∨
      ∃ mode ∈ o.entryPoints, (o.writer templates).entryPointFile? ss mode = .ok (some f) := by
  obtain ⟨classes, entryPoints, hclasses, hentryPoints, rfl⟩ := sourceFiles_eq_ok_iff.1 h
  rcases List.mem_append.1 hf with hf | hf
  · obtain ⟨fs, hmem, hf⟩ := List.mem_flatten.1 hf
    obtain ⟨s, hs, hfs⟩ := mem_of_mapM hclasses fs hmem
    exact .inl ⟨s, hs, fs, hfs, hf⟩
  · obtain ⟨file?, hmem, hfile⟩ := List.mem_filterMap.1 hf
    obtain rfl : file? = some f := hfile
    exact .inr (mem_of_mapM hentryPoints _ hmem)

/-- The file of an entry point holds its source, and is named for it. -/
theorem entryPointFile?_eq_ok {o : GenerationOptions} {templates : TemplateSet} {ss : List Surface}
    {mode : EntryPointMode} {f : SourceFile}
    (h : (o.writer templates).entryPointFile? ss mode = .ok (some f)) :
    ss ≠ [] ∧ EntryPoint.source (o.writer templates).toClassWriter ss mode = .ok f.content ∧
      f.directory = packageDirectory o.outputDirectory
        (o.package.getD (EntryPoint.commonPackage ss)) ∧
      f.name = EntryPoint.fileName f.content mode := by
  obtain ⟨source, hsource, h⟩ := bind_eq_ok_iff.1 h
  split at h
  · cases h
  · next hempty =>
    obtain rfl := Option.some.inj (Except.ok.inj h)
    refine ⟨?_, hsource, rfl, rfl⟩
    rintro rfl
    obtain rfl : "" = source := Except.ok.inj hsource
    exact hempty rfl

/-! ## Runs -/

theorem run_bind_eq {σ α β : Type} (x : StateM σ α) (f : α → StateM σ β) (s : σ) :
    (x >>= f).run s = (f (x.run s).1).run (x.run s).2 := rfl

section
variable {σ : Type} [FileAccess (StateM σ)] {o : GenerationOptions} {c : Catalog}
  {templates : TemplateSet} {s s' : σ}

theorem run_loadTemplates_of_none (ho : o.templatesDirectory = none) (s : σ) :
    (o.loadTemplates : StateM σ _).run s = (.ok .default, s) := by
  rw [loadTemplates, ho]
  rfl

/-- Without a plan a run ends where the templates have been loaded. -/
theorem run_of_plan_eq_error {e : GenerationError}
    (hload : (o.loadTemplates : StateM σ _).run s = (.ok templates, s'))
    (hplan : o.plan c templates = .error e) : (o.run c : StateM σ _).run s = (.error e, s') := by
  have hbind : (Except.ok templates).bind (o.plan c) = .error e := hplan
  rw [run, run_bind_eq, hload]
  dsimp only
  rw [hbind]
  rfl

/-- With a plan a run writes the planned files. -/
theorem run_of_plan_eq_ok {n : Nat} {files : List SourceFile}
    (hload : (o.loadTemplates : StateM σ _).run s = (.ok templates, s'))
    (hplan : o.plan c templates = .ok (n, files)) :
    (o.run c : StateM σ _).run s =
      (((SourceFile.writeAll files : StateM σ _).run s').1.map fun paths =>
          { types := n, files := paths },
        ((SourceFile.writeAll files : StateM σ _).run s').2) := by
  have hbind : (Except.ok templates).bind (o.plan c) = .ok (n, files) := hplan
  rw [run, run_bind_eq, hload]
  dsimp only
  rw [hbind]
  rfl

end

/-- A file is written when its directory can be made and its text put there. -/
theorem run_write {f : SourceFile} {fs fs' fs'' : FileSystem}
    (hdirectory : (makeDirectories f.directory : StateM FileSystem _).run fs = (.ok (), fs'))
    (htext : (FileAccess.writeText f.path f.content : StateM FileSystem _).run fs' =
      (.ok (), fs'')) :
    (f.write : StateM FileSystem _).run fs = (.ok f.path, fs'') := by
  rw [SourceFile.write, run_bind_eq, hdirectory]
  dsimp only
  rw [run_bind_eq, htext]
  rfl

theorem run_writeAll_cons {f : SourceFile} {files : List SourceFile} {paths : List String}
    {fs fs' fs'' : FileSystem}
    (hfirst : (f.write : StateM FileSystem _).run fs = (.ok f.path, fs'))
    (hrest : (SourceFile.writeAll files : StateM FileSystem _).run fs' = (.ok paths, fs'')) :
    (SourceFile.writeAll (f :: files) : StateM FileSystem _).run fs =
      (.ok (f.path :: paths), fs'') := by
  rw [SourceFile.writeAll, run_bind_eq, hfirst]
  dsimp only
  rw [run_bind_eq, hrest]
  rfl

/-- A file that has been written gives its path. -/
theorem eq_path_of_write {f : SourceFile} {fs : FileSystem} {path : String}
    (h : ((f.write : StateM FileSystem _).run fs).1 = .ok path) : path = f.path := by
  rw [SourceFile.write, run_bind_eq] at h
  split at h
  · exact absurd h (by rintro ⟨⟩)
  · rw [run_bind_eq] at h
    split at h
    · exact absurd h (by rintro ⟨⟩)
    · exact (Except.ok.inj h).symm

/-- Files that have been written give their paths. -/
theorem eq_paths_of_writeAll {files : List SourceFile} {fs : FileSystem} {paths : List String}
    (h : ((SourceFile.writeAll files : StateM FileSystem _).run fs).1 = .ok paths) :
    paths = files.map SourceFile.path := by
  induction files generalizing fs paths with
  | nil => exact (Except.ok.inj h).symm
  | cons f files ih =>
    rw [SourceFile.writeAll, run_bind_eq] at h
    split at h
    · exact absurd h (by rintro ⟨⟩)
    · next path hpath =>
      rw [run_bind_eq] at h
      rcases hrest : ((SourceFile.writeAll files : StateM FileSystem _).run
          ((f.write : StateM FileSystem _).run fs).2).1 with e | rest
      · rw [hrest] at h
        exact absurd h (by rintro ⟨⟩)
      · rw [hrest] at h
        obtain rfl : path :: rest = paths := Except.ok.inj h
        rw [List.map_cons, ih hrest, eq_path_of_write hpath]

/-- A run that succeeds on a file system reports the paths of the planned files. -/
theorem run_eq_ok {o : GenerationOptions} {c : Catalog} {fs : FileSystem}
    {report : GenerationReport}
    (h : ((o.run c : StateM FileSystem _).run fs).1 = .ok report) :
    ∃ templates files, ((o.loadTemplates : StateM FileSystem _).run fs).1 = .ok templates ∧
      o.plan c templates = .ok (report.types, files) ∧
      report.files = files.map SourceFile.path := by
  rw [run, run_bind_eq] at h
  split at h
  · exact absurd h (by rintro ⟨⟩)
  · next types files hplan =>
    rw [run_bind_eq] at h
    rcases hpaths : ((SourceFile.writeAll files : StateM FileSystem _).run
        ((o.loadTemplates : StateM FileSystem _).run fs).2).1 with e | paths
    · rw [hpaths] at h
      exact absurd h (by rintro ⟨⟩)
    · rw [hpaths] at h
      obtain rfl : (⟨types, paths⟩ : GenerationReport) = report := Except.ok.inj h
      obtain ⟨templates, hload, hplan⟩ := bind_eq_ok_iff.1 hplan
      exact ⟨templates, files, hload, hplan, eq_paths_of_writeAll hpaths⟩

end GenerationOptions
end AssertionWriter
