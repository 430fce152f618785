/-
  AssertionWriter.Proofs.Generation.Failure

  How a run can fail. Templates are only ever replaced, so none is missing; the selected
  types are declared and can be named, so each of them is described. What is left are
  requests for nothing there is, templates that cannot be read, and files that cannot be
  written. Only the last comes after a first change to the files.
-/
import AssertionWriter.Proofs.Generation.NeededRoles
import AssertionWriter.Proofs.Generation.Plan

namespace AssertionWriter
open Files Template TemplateSet

/-! ## Sources -/

namespace GenerationOptions

variable {o : GenerationOptions} {c : Catalog} {templates : TemplateSet}

theorem exists_classFiles (ht : templates.Complete) (batch : List QualifiedName) (s : Surface) :
    ∃ files, o.classFiles templates batch s = .ok files := by
  rw [classFiles]
  split
  · exact ((o.writer templates).needs_hierarchicalFiles s batch).exists_ok ht
  · exact exists_bind (((o.writer templates).needs_flatFile s).exists_ok ht) fun _ => ⟨_, rfl⟩

/-- With a template for every role there are sources for any surfaces. -/
theorem exists_sourceFiles (ht : templates.Complete) (ss : List Surface) :
    ∃ files, o.sourceFiles templates ss = .ok files := by
  obtain ⟨classes, hclasses⟩ := exists_mapM_of_forall fun s (_ : s ∈ ss) =>
    @exists_classFiles o templates ht (ss.map (·.subject)) s
  obtain ⟨entryPoints, hentryPoints⟩ := exists_mapM_of_forall fun mode (_ : mode ∈ o.entryPoints) =>
    ((o.writer templates).needs_entryPointFile? ss mode).exists_ok ht
  exact ⟨_, sourceFiles_eq_ok_iff.2 ⟨classes, entryPoints, hclasses, hentryPoints, rfl⟩⟩

/-! ## The plan -/

/-- Every selected type is declared and can be named, so it is described. -/
theorem exists_surfaces {ds : List TypeDecl} (h : o.selection c = .ok ds) :
    ∃ ss, o.surfaces c = .ok ss := by
  have hdescribe : ∀ d ∈ ds, ∃ s, Surface.describe c o.policy d.name = .ok s := by
    intro d hd
    obtain ⟨hdecl, heligible⟩ := Catalog.mem_selectAll.1 (mem_selectAll_of_selection h d hd)
    have hfind : c.find? d.name = some d := Catalog.find?_eq_some_iff.2 ⟨hdecl, rfl⟩
    have hnameable : d.kind.isNameable = true := (Bool.and_eq_true_iff.1 heligible).1
    exact ⟨_, Surface.describe_eq_ok_iff.2 ⟨d, hfind, hnameable, rfl⟩⟩
  obtain ⟨ss, hss⟩ := exists_mapM_of_forall hdescribe
  exact ⟨ss, bind_eq_ok_iff.2 ⟨ds, h, hss⟩⟩

theorem exists_request_of_selection_eq_error {cause : CatalogError}
    (h : o.selection c = .error cause) :
    ∃ request ∈ o.types, cause = .notFound (Catalog.trimmed request) := by
  rw [selection] at h
  split at h
  · cases h
  · exact Catalog.exists_request_of_select_eq_error h

/-- With a template for every role only the selection can keep a plan from being made. -/
theorem selection_eq_error_of_plan (ht : templates.Complete) {e : GenerationError}
    (h : o.plan c templates = .error e) :
    ∃ cause, o.selection c = .error cause ∧ e = .catalog cause := by
  cases hselection : o.selection c with
  | error cause =>
    rw [plan, surfaces, hselection] at h
    exact ⟨cause, rfl, (Except.error.inj h).symm⟩
  | ok ds =>
    obtain ⟨ss, hss⟩ := exists_surfaces hselection
    obtain ⟨files, hfiles⟩ := @exists_sourceFiles o templates ht ss
    rw [plan_eq_ok_iff.2 ⟨ss, hss, rfl, hfiles⟩] at h
    cases h

/-! ## Writing -/

section
variable {σ : Type} [FileAccess (StateM σ)] {s : σ} {e : GenerationError}

theorem write_eq_error {f : SourceFile} (h : ((f.write : StateM σ _).run s).1 = .error e) :
    ∃ path cause, (path = f.directory ∨ path = f.path) ∧ e = .write path cause := by
  rw [SourceFile.write, run_bind_eq] at h
  split at h
  · next cause _ => exact ⟨_, cause, .inl rfl, (Except.error.inj h).symm⟩
  · rw [run_bind_eq] at h
    split at h
    · next cause _ => exact ⟨_, cause, .inr rfl, (Except.error.inj h).symm⟩
    · cases h

theorem writeAll_eq_error {files : List SourceFile}
    (h : ((SourceFile.writeAll files : StateM σ _).run s).1 = .error e) :
    ∃ f ∈ files, ∃ path cause, (path = f.directory ∨ path = f.path) ∧ e = .write path cause := by
  induction files generalizing s with
  | nil => cases h
  | cons f files ih =>
    rw [SourceFile.writeAll, run_bind_eq] at h
    split at h
    · next cause hwrite =>
      obtain rfl : cause = e := Except.error.inj h
      exact ⟨f, List.mem_cons_self .., write_eq_error hwrite⟩
    · rw [run_bind_eq] at h
      obtain ⟨g, hg, hfailed⟩ := ih (map_eq_error_iff.1 h)
      exact ⟨g, List.mem_cons_of_mem _ hg, hfailed⟩

end

/-! ## Runs -/

section
variable {σ : Type} [FileAccess (StateM σ)]

/-- What keeps a run from succeeding that finds the files in the state `s`. -/
inductive FailsWith (o : GenerationOptions) (c : Catalog) (s : σ) : GenerationError → Prop
  /-- A request asks for nothing there is. -/
  | request {request : String} (hrequest : request ∈ o.types)
      (hselection : o.selection c = .error (.notFound (Catalog.trimmed request))) :
      FailsWith o c s (.catalog (.notFound (Catalog.trimmed request)))
  /-- There is nothing where the templates should be. -/
  | absent {directory : String} (ho : o.templatesDirectory = some directory)
      (habsent : ((FileAccess.isPresent directory : StateM σ _).run s).1 = false) :
      FailsWith o c s (.template (.notFound directory))
  | unreadable {directory : String} {r : Role} {cause : FileError}
      (ho : o.templatesDirectory = some directory)
      (hfile : IsUnreadable s (under directory r.file) cause) :
      FailsWith o c s (.template (.unreadable (under directory r.file) cause))
  /-- A planned file, or the directory for it, cannot be made. -/
  | write {templates : TemplateSet} {n : Nat} {files : List SourceFile} {f : SourceFile}
      {path : String} {cause : FileError} (hplan : o.plan c templates = .ok (n, files))
      (hf : f ∈ files) (hpath : path = f.directory ∨ path = f.path) :
      FailsWith o c s (.write path cause)

variable [Undisturbed σ] {s : σ} {e : GenerationError}

theorem looks_loadTemplates (o : GenerationOptions) : Looks (o.loadTemplates : StateM σ _) := by
  rw [loadTemplates]
  split
  · exact Looks.pure _
  · exact (looks_overrideFrom _ _).bind fun _ => Looks.pure _

/-- What the overriding of the default templates gives, with its error as one of the run. -/
theorem run_loadTemplates {directory : String} (ho : o.templatesDirectory = some directory) :
    ((o.loadTemplates : StateM σ _).run s).1 =
      ((((TemplateSet.default.overrideFrom directory : StateM σ _).run s).1.2.map fun _ =>
        ((TemplateSet.default.overrideFrom directory : StateM σ _).run s).1.1).mapError .template) := by
  rw [loadTemplates, ho]
  dsimp only
  rw [(looks_overrideFrom directory _).run_bind]
  rfl

theorem complete_of_loadTemplates (h : ((o.loadTemplates : StateM σ _).run s).1 = .ok templates) :
    templates.Complete := by
  cases ho : o.templatesDirectory with
  | none =>
    rw [loadTemplates, ho] at h
    obtain rfl := Except.ok.inj h
    exact complete_default
  | some directory =>
    rw [run_loadTemplates ho] at h
    obtain ⟨roles, -, rfl⟩ := map_eq_ok_iff.1 (mapError_eq_ok_iff.1 h)
    exact complete_default.overrideFrom directory s

theorem failsWith_of_loadTemplates
    (h : ((o.loadTemplates : StateM σ _).run s).1 = .error e) : o.FailsWith c s e := by
  cases ho : o.templatesDirectory with
  | none =>
    rw [loadTemplates, ho] at h
    cases h
  | some directory =>
    rw [run_loadTemplates ho] at h
    obtain ⟨cause, hcause, rfl⟩ := mapError_eq_error_iff.1 h
    rcases isUnreadable_of_overrideFrom (map_eq_error_iff.1 hcause) with
      ⟨habsent, rfl⟩ | ⟨r, cause, hfile, rfl⟩
    · exact .absent ho habsent
    · exact .unreadable ho hfile

/-- A run that fails before it writes leaves the files as they are. -/
theorem failsWith_of_run (h : ((o.run c : StateM σ _).run s).1 = .error e) :
    o.FailsWith c s e ∧
      ((∀ path cause, e ≠ .write path cause) → ((o.run c : StateM σ _).run s).2 = s) := by
  have hunchanged : ((o.loadTemplates : StateM σ _).run s).2 = s := looks_loadTemplates o s
  cases hloaded : ((o.loadTemplates : StateM σ _).run s).1 with
  | error cause =>
    rw [run, (looks_loadTemplates o).run_bind, hloaded] at h ⊢
    obtain rfl : cause = e := Except.error.inj h
    exact ⟨failsWith_of_loadTemplates hloaded, fun _ => rfl⟩
  | ok templates =>
    have hload : (o.loadTemplates : StateM σ _).run s = (.ok templates, s) :=
      Prod.ext hloaded hunchanged
    cases hplan : o.plan c templates with
    | error cause =>
      rw [run_of_plan_eq_error hload hplan] at h ⊢
      obtain rfl : cause = e := Except.error.inj h
      obtain ⟨reason, hselection, rfl⟩ :=
        selection_eq_error_of_plan (complete_of_loadTemplates hloaded) hplan
      obtain ⟨request, hrequest, rfl⟩ := exists_request_of_selection_eq_error hselection
      exact ⟨.request hrequest hselection, fun _ => rfl⟩
    | ok planned =>
      obtain ⟨n, files⟩ := planned
      rw [run_of_plan_eq_ok hload hplan] at h ⊢
      -- Only now are files written, so no other error can come up.
      obtain ⟨f, hf, path, cause, hpath, rfl⟩ := writeAll_eq_error (map_eq_error_iff.1 h)
      exact ⟨.write hplan hf hpath, fun hnot => absurd rfl (hnot path cause)⟩

end

end GenerationOptions
end AssertionWriter
