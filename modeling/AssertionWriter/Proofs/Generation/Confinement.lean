/-
  AssertionWriter.Proofs.Generation.Confinement

  Runs stay in their output directory. Packages, flat names and the names that are found in
  sources have no characters but those of names, so whatever a catalog and templates hold,
  a file goes to some plain names below the output directory. On a file system a run
  changes nothing but such files, and the directories that they need.
-/
import AssertionWriter.Proofs.Files.Below
import AssertionWriter.Proofs.Generation.Failure
import AssertionWriter.Proofs.Generation.Paths
import AssertionWriter.Proofs.Generation.Writing

namespace AssertionWriter
open Files Files.FileSystem QualifiedName Text

/-! ## Names of files -/

/-- Whether all texts are non-empty ones of alphanumeric characters, underscores and dollar
    signs. -/
def ArePlain (names : List String) : Prop := ∀ name ∈ names, isPart name.toList = true

theorem isPlainName_of_isPart {name : String} (h : isPart name.toList = true) :
    IsPlainName name := by
  have hdot : '.' ∉ name.toList := not_mem_of_isPart h (by decide)
  refine ⟨isPlainSegment_of_isPart h, ?_, ?_⟩
  · rintro rfl
    exact hdot (by decide)
  · rintro rfl
    exact hdot (by decide)

theorem isPlainName_fileName {name : String} (h : isPart name.toList = true) :
    IsPlainName (name ++ Naming.fileEnding) := by
  have hslash : '/' ∉ name.toList := not_mem_of_isPart h (by decide)
  have hlength : ∀ {short : String}, short.toList.length < 5 →
      name ++ Naming.fileEnding ≠ short := by
    rintro short hshort rfl
    rw [String.toList_append, List.length_append] at hshort
    have hending : Naming.fileEnding.toList.length = 5 := by decide
    omega
  refine ⟨?_, hlength (by decide), hlength (by decide)⟩
  simp [isPlainSegment, hslash, Naming.fileEnding]

/-- A file that lies below the directory, with plain names on the way. -/
def SourceFile.StaysBelow (base : String) (f : SourceFile) : Prop :=
  ∃ dirs name, ArePlain (name :: dirs) ∧ f.directory = dirs.foldl under base ∧
    f.name = name ++ Naming.fileEnding

/-- The directory of the package of a name. -/
theorem QualifiedName.WellFormed.exists_packageDirectory {n : QualifiedName} (h : n.WellFormed)
    (base : String) :
    ∃ dirs, ArePlain dirs ∧ packageDirectory base n.package = dirs.foldl under base := by
  refine ⟨(packageParts n.package).map String.ofList, ?_, ?_⟩
  · intro name hname
    obtain ⟨part, hpart, rfl⟩ := List.mem_map.1 hname
    rw [String.toList_ofList]
    exact isPart_of_isPackagePart (h.packageParts_eq.2 part hpart)
  · rw [List.foldl_map]
    rfl

namespace GenerationOptions

variable {o : GenerationOptions} {c : Catalog} {templates : TemplateSet} {s : Surface}

/-! ## Planned files -/

theorem isPart_of_mem_classesOf {n : QualifiedName} (h : n.WellFormed) {name : String}
    (hname : name ∈ o.classesOf n) : isPart name.toList = true := by
  have hclass : name = Naming.abstractAssertClass n ∨ name = Naming.assertClass n := by
    rw [classesOf] at hname
    split at hname
    · simpa using hname
    · exact .inr (List.mem_singleton.1 hname)
  rcases hclass with rfl | rfl
  · refine isPart_iff.2 ⟨by simp [Naming.abstractAssertClass], ?_⟩
    exact ClassWriter.isNameChar_abstractAssertClass (s := .bare n) h
  · refine isPart_iff.2 ⟨by simp [Naming.assertClass], ?_⟩
    exact ClassWriter.isNameChar_assertClass (s := .bare n) h

theorem staysBelow_of_classFiles (ho : o.package = none) (hs : s.subject.WellFormed)
    {batch : List QualifiedName} {files : List SourceFile}
    (h : o.classFiles templates batch s = .ok files) :
    ∀ f ∈ files, f.StaysBelow o.outputDirectory := by
  intro f hf
  obtain ⟨name, hname, hdirectory, hfile⟩ := exists_place_of_classFiles h f hf
  obtain ⟨dirs, hdirs, hpackage⟩ := hs.exists_packageDirectory o.outputDirectory
  rw [packageOf, ho, Option.getD_none, hpackage] at hdirectory
  refine ⟨dirs, name, ?_, hdirectory, hfile⟩
  exact List.forall_mem_cons.2 ⟨isPart_of_mem_classesOf hs hname, hdirs⟩

/-- The file of an entry point is named for a class that is found in its source, or else for the
    mode. -/
theorem exists_fileName (source : String) (mode : EntryPointMode) :
    ∃ name, isPart name.toList = true ∧
      EntryPoint.fileName source mode = name ++ Naming.fileEnding := by
  rw [EntryPoint.fileName]
  split
  · next name hname =>
    obtain ⟨line, -, hline⟩ := List.exists_of_findSome?_eq_some hname
    obtain ⟨rest, -, hrest⟩ := Option.bind_eq_some_iff.1 hline
    refine ⟨name, ?_, rfl⟩
    split at hrest
    · cases hrest
    · next hne =>
      rw [← Option.some.inj hrest, String.toList_ofList, isPart_iff]
      exact ⟨hne, fun c hc => List.all_eq_true.1 List.all_takeWhile c hc⟩
  · refine ⟨String.ofList (mode.defaultFile.toList.takeWhile (· ≠ '.')), ?_⟩
    cases mode <;> decide

example : EntryPoint.fileName "public class ../../Evil \x7b\n" .standard = "Assertions.java" := by
  decide

theorem staysBelow_of_entryPointFile? (ho : o.package = none) {ss : List Surface}
    (hss : ∀ s ∈ ss, s.subject.WellFormed) {mode : EntryPointMode} {f : SourceFile}
    (h : (o.writer templates).entryPointFile? ss mode = .ok (some f)) :
    f.StaysBelow o.outputDirectory := by
  obtain ⟨hne, -, hdirectory, hfile⟩ := entryPointFile?_eq_ok h
  obtain ⟨s, hs, hpackage⟩ := EntryPoint.commonPackage_mem hne
  obtain ⟨dirs, hdirs, hbelow⟩ := (hss s hs).exists_packageDirectory o.outputDirectory
  obtain ⟨name, hname, hclass⟩ := exists_fileName f.content mode
  rw [ho, Option.getD_none, hpackage, Surface.package, hbelow] at hdirectory
  exact ⟨dirs, name, List.forall_mem_cons.2 ⟨hname, hdirs⟩, hdirectory, hfile.trans hclass⟩

/-- Without a package that is asked for, every planned file stays below the output directory. -/
theorem staysBelow_of_plan (hc : c.Readable) (ho : o.package = none) {n : Nat}
    {files : List SourceFile} (h : o.plan c templates = .ok (n, files)) :
    ∀ f ∈ files, f.StaysBelow o.outputDirectory := by
  obtain ⟨ss, hss, -, hfiles⟩ := plan_eq_ok_iff.1 h
  obtain ⟨ds, hds, rfl⟩ := surfaces_eq_map hss
  have hwf : ∀ s ∈ ds.map (Surface.ofDeclaration c o.policy), s.subject.WellFormed := by
    intro s hs
    obtain ⟨d, hd, rfl⟩ := List.mem_map.1 hs
    exact (hc d (mem_of_selection hds d hd)).name
  intro f hf
  rcases cases_of_mem_sourceFiles hfiles hf with ⟨s, hs, fs, hfs, hf⟩ | ⟨mode, -, hmode⟩
  · exact staysBelow_of_classFiles ho (hwf s hs) hfs f hf
  · exact staysBelow_of_entryPointFile? ho hwf hmode

/-! ## Runs -/

/-- A run ends with the files as it found them, or as the writing of planned files leaves them. -/
theorem exists_run_eq (o : GenerationOptions) (c : Catalog) (fs : FileSystem) :
    ∃ sources, (sources = [] ∨ ∃ templates n, o.plan c templates = .ok (n, sources)) ∧
      ((o.run c : StateM FileSystem _).run fs).2 =
        ((SourceFile.writeAll sources : StateM FileSystem _).run fs).2 := by
  have hunchanged : ((o.loadTemplates : StateM FileSystem _).run fs).2 = fs :=
    looks_loadTemplates o fs
  cases hloaded : ((o.loadTemplates : StateM FileSystem _).run fs).1 with
  | error cause =>
    rw [run, (looks_loadTemplates o).run_bind, hloaded]
    exact ⟨[], .inl rfl, rfl⟩
  | ok templates =>
    have hload : (o.loadTemplates : StateM FileSystem _).run fs = (.ok templates, fs) :=
      Prod.ext hloaded hunchanged
    cases hplan : o.plan c templates with
    | error cause =>
      rw [run_of_plan_eq_error hload hplan]
      exact ⟨[], .inl rfl, rfl⟩
    | ok planned =>
      obtain ⟨n, files⟩ := planned
      rw [run_of_plan_eq_ok hload hplan]
      exact ⟨files, .inr ⟨templates, n, hplan⟩, rfl⟩

end GenerationOptions

/-- The path of a directory with some plain names behind it, the last of them with the ending of
    source files. -/
def IsPathBelow (base path : String) : Prop :=
  ∃ dirs name, ArePlain (name :: dirs) ∧
    path.toList = leadOf base ++ ("/".intercalate (dirs ++ [name ++ Naming.fileEnding])).toList

/-- What a run says, and does to the files, that stays below a directory: the files it reports lie
    there, and those that it complains of; all that it changes are files there, directories there,
    and directories on the way that have been missing. -/
structure IsConfined (base : String) (result : Except GenerationError GenerationReport)
    (fs fs' : FileSystem) : Prop where
  reported : ∀ report, result = .ok report → ∀ path ∈ report.files, IsPathBelow base path
  refused : ∀ path cause, result = .error (.write path cause) →
    ∃ f : SourceFile, f.StaysBelow base ∧ (path = f.directory ∨ path = f.path)
  changed : ∀ l, fs'.node? l ≠ fs.node? l →
    (∃ dirs name text, ArePlain (name :: dirs) ∧
      fs'.IsBelow base (dirs ++ [name ++ Naming.fileEnding]) l ∧
      fs'.node? l = some (.file (.text text))) ∨
    fs.node? l = none ∧ fs'.node? l = some .directory ∧
      (fs'.Passes base l ∨ ∃ dirs, ArePlain dirs ∧ fs'.IsBelow base dirs l)

namespace SourceFile.StaysBelow

variable {base : String} {f : SourceFile} {fs : FileSystem} {l : Location}

theorem isPathBelow (h : f.StaysBelow base) : IsPathBelow base f.path := by
  obtain ⟨dirs, name, hplain, hdirectory, hfile⟩ := h
  obtain ⟨hname, hdirs⟩ := List.forall_mem_cons.1 hplain
  refine ⟨dirs, name, hplain, ?_⟩
  have hsegments : ∀ p ∈ dirs.map String.toList, isPlainSegment p = true := by
    intro p hp
    obtain ⟨d, hd, rfl⟩ := List.mem_map.1 hp
    exact isPlainSegment_of_isPart (hdirs d hd)
  have hfold : dirs.foldl under base = (dirs.map String.toList).foldl
      (fun directory part => under directory (String.ofList part)) base := by
    simp only [List.foldl_map, String.ofList_toList]
  rw [SourceFile.path, hfile, toList_under (isPlainName_fileName hname).head?_ne, hdirectory, hfold,
    leadOf_foldl_under hsegments, List.append_assoc, flatMap_append_eq_intercalate]
  simp [String.toList_intercalate]

/-- Where the path of the file leads. -/
theorem isBelow (h : f.StaysBelow base) (hl : fs.Leads f.path l) :
    ∃ dirs name, ArePlain (name :: dirs) ∧
      fs.IsBelow base (dirs ++ [name ++ Naming.fileEnding]) l := by
  obtain ⟨dirs, name, hplain, hdirectory, hfile⟩ := h
  obtain ⟨hname, hdirs⟩ := List.forall_mem_cons.1 hplain
  refine ⟨dirs, name, hplain, isBelow_of_leads ?_ ?_⟩
  · intro n hn
    rcases List.mem_append.1 hn with hn | hn
    · exact isPlainName_of_isPart (hdirs n hn)
    · rw [List.mem_singleton.1 hn]
      exact isPlainName_fileName hname
  · rwa [List.foldl_append, List.foldl_cons, List.foldl_nil, ← hdirectory, ← hfile]

/-- Where the directories are that the file needs. -/
theorem passes_or_isBelow (h : f.StaysBelow base) {path : String}
    (hpath : path ∈ f.directory :: parents f.directory) (hl : fs.Leads path l)
    (hnode : fs.node? l = some .directory) :
    fs.Passes base l ∨ ∃ dirs, ArePlain dirs ∧ fs.IsBelow base dirs l := by
  obtain ⟨dirs, name, hplain, hdirectory, -⟩ := h
  have hdirs := (List.forall_mem_cons.1 hplain).2
  rw [hdirectory] at hpath
  refine (FileSystem.passes_or_isBelow (fun n hn => isPlainName_of_isPart (hdirs n hn)) hpath hl
    hnode).imp_right ?_
  rintro ⟨front, hfront, hbelow⟩
  exact ⟨front, fun n hn => hdirs n (hfront.subset hn), hbelow⟩

end SourceFile.StaysBelow

namespace GenerationOptions

/-- Without a package that is asked for, a run stays below the output directory, whatever the
    catalog and the templates hold. -/
theorem isConfined_run {text : String} {o : GenerationOptions} {c : Catalog}
    (hc : Catalog.parse text = .ok c) (ho : o.package = none) (fs : FileSystem) :
    IsConfined o.outputDirectory ((o.run c : StateM FileSystem _).run fs).1 fs
      ((o.run c : StateM FileSystem _).run fs).2 := by
  have hr := Catalog.readable_of_parse hc
  constructor
  · intro report hreport path hpath
    obtain ⟨templates, files, -, hplan, hfiles⟩ := run_eq_ok hreport
    rw [hfiles] at hpath
    obtain ⟨f, hf, rfl⟩ := List.mem_map.1 hpath
    exact (staysBelow_of_plan hr ho hplan f hf).isPathBelow
  · intro path cause herror
    cases (failsWith_of_run herror).1 with
    | write hplan hf hpath => exact ⟨_, staysBelow_of_plan hr ho hplan _ hf, hpath⟩
  · intro l hl
    obtain ⟨sources, hsources, hrun⟩ := exists_run_eq o c fs
    have hbelow : ∀ f ∈ sources, f.StaysBelow o.outputDirectory := by
      rcases hsources with rfl | ⟨templates, n, hplan⟩
      · exact fun f hf => absurd hf List.not_mem_nil
      · exact staysBelow_of_plan hr ho hplan
    have hchanged := changed_writeAll sources fs
    rw [← hrun] at hchanged
    rcases hchanged.others l hl with ⟨text, htext⟩ | ⟨hnone, hmade, f, hf, path, hpath, hleads⟩
    · left
      -- A text that is there only now is that of a planned file.
      have hnew := (hchanged.texts l text htext).resolve_left fun hold => hl (htext.trans hold.symm)
      obtain ⟨f, hf, -, hleads⟩ := hnew
      obtain ⟨dirs, name, hplain, hplace⟩ := (hbelow f hf).isBelow hleads
      exact ⟨dirs, name, text, hplain, hplace, htext⟩
    · exact .inr ⟨hnone, hmade, (hbelow f hf).passes_or_isBelow hpath hleads hmade⟩

theorem isConfined_run_sameFlatNames :
    Catalog.parse Catalog.sameFlatNames.toText = .ok Catalog.sameFlatNames ∧
      allTypes.package = none ∧
      IsConfined "out" (.ok ⟨2, ["out/p/ABAssert.java", "out/p/ABAssert.java"]⟩) FileSystem.empty
        ((allTypes.run Catalog.sameFlatNames : StateM FileSystem _).run FileSystem.empty).2 := by
  have ho : allTypes.package = none := rfl
  have hconfined := isConfined_run Catalog.parse_sameFlatNames ho FileSystem.empty
  rw [run_sameFlatNames] at hconfined
  exact ⟨Catalog.parse_sameFlatNames, ho, hconfined⟩

end GenerationOptions
end AssertionWriter
