/-
  AssertionWriter.Proofs.Generation.InTurn

  Generation without a plan: class after class and entry point after entry point is made
  and written at once, by the operations for single sources. It comes to what a run does,
  which makes all sources before it writes the first one: the templates of a run are
  complete, so no source fails to be made once others have been written.
-/
import AssertionWriter.Proofs.Generation.Failure

namespace AssertionWriter
open Files Template

/-! ## Writing in turn -/

section
variable {m : Type → Type} [Monad m]

/-- Lets an action write and, if it has not failed, another one. Gives the paths of both. -/
def writeBoth (first second : m (Except GenerationError (List String))) :
    m (Except GenerationError (List String)) := do
  match ← first with
  | .error e => return .error e
  | .ok paths => return (← second).map (paths ++ ·)

/-- Lets actions write one after the other, up to the first that fails. Gives all their paths. -/
def writeInTurn (actions : List (m (Except GenerationError (List String)))) :
    m (Except GenerationError (List String)) :=
  actions.foldr writeBoth (return .ok [])

variable [FileAccess m]

namespace GenerationOptions

/-- Makes and writes the class for a subject, or the pair of classes. -/
def writeClasses (o : GenerationOptions) (templates : TemplateSet) (batch : List QualifiedName)
    (s : Surface) : m (Except GenerationError (List String)) :=
  if o.hierarchical then (o.writer templates).writeHierarchical s batch
  else return (← (o.writer templates).writeFlat s).map ([·])

/-- Makes and writes an entry point, if it has a source. -/
def writeEntryPoint (o : GenerationOptions) (templates : TemplateSet) (ss : List Surface)
    (mode : EntryPointMode) : m (Except GenerationError (List String)) :=
  return (← (o.writer templates).writeEntryPoint ss mode).map Option.toList

/-- Makes and writes what there is for some surfaces: the classes, and then the entry points. -/
def writeSources (o : GenerationOptions) (templates : TemplateSet) (ss : List Surface) :
    m (Except GenerationError (List String)) :=
  writeInTurn (ss.map (o.writeClasses templates (ss.map (·.subject))) ++
    o.entryPoints.map (o.writeEntryPoint templates ss))

/-- Generates assertion classes and entry points, each of them written before the next is made. -/
def runInTurn (o : GenerationOptions) (c : Catalog) :
    m (Except GenerationError GenerationReport) := do
  match ← o.loadTemplates with
  | .error e => return .error e
  | .ok templates =>
    match o.surfaces c with
    | .error cause => return .error (.catalog cause)
    | .ok ss =>
      return (← o.writeSources templates ss).map fun paths => { types := ss.length, files := paths }

end GenerationOptions
end

/-! ## Sequences of actions -/

section
variable {m : Type → Type} [Monad m] [LawfulMonad m]

theorem writeBoth_nil (second : m (Except GenerationError (List String))) :
    writeBoth (return .ok []) second = second := by
  have hsame : ∀ x : Except GenerationError (List String), x.map ([] ++ ·) = x := by
    rintro (e | paths)
    · rfl
    · rfl
  rw [writeBoth, pure_bind]
  simp only [hsame, bind_pure]

/-- It does not matter how three actions are put together. -/
theorem writeBoth_assoc (first second third : m (Except GenerationError (List String))) :
    writeBoth (writeBoth first second) third = writeBoth first (writeBoth second third) := by
  rw [writeBoth, writeBoth, writeBoth, bind_assoc]
  refine bind_congr_except (fun _ => pure_bind ..) fun paths => ?_
  simp only [writeBoth, bind_assoc]
  refine bind_congr_except (fun _ => by simp only [pure_bind, Except.map]) fun more => ?_
  simp only [pure_bind, bind_assoc, Except.map]
  exact bind_congr_except (fun _ => rfl) fun rest => by simp only [List.append_assoc]

variable [FileAccess m]

namespace SourceFile

theorem writeAll_singleton (f : SourceFile) :
    (writeAll [f] : m _) = do return (← f.write).map ([·]) := by
  rw [writeAll]
  exact bind_congr_except (fun _ => rfl) fun _ => pure_bind ..

theorem writeAll_cons (f : SourceFile) (fs : List SourceFile) :
    (writeAll (f :: fs) : m _) = writeBoth (writeAll [f]) (writeAll fs) := by
  rw [writeAll_singleton, writeAll, writeBoth, bind_assoc]
  simp only [pure_bind]
  exact bind_congr_except (fun _ => rfl) fun _ => rfl

theorem writeAll_append (fs gs : List SourceFile) :
    (writeAll (fs ++ gs) : m _) = writeBoth (writeAll fs) (writeAll gs) := by
  induction fs with
  | nil => exact (writeBoth_nil _).symm
  | cons f fs ih =>
    rw [List.cons_append, writeAll_cons, ih, ← writeBoth_assoc, ← writeAll_cons]

end SourceFile

/-- Lists of files that are written in turn are written like a single one. -/
theorem writeInTurn_map_writeAll (fss : List (List SourceFile)) :
    (writeInTurn (fss.map SourceFile.writeAll) : m _) = SourceFile.writeAll fss.flatten := by
  induction fss with
  | nil => rfl
  | cons fs fss ih =>
    rw [List.flatten_cons, SourceFile.writeAll_append, ← ih]
    rfl

/-! ## Planned files -/

namespace GenerationOptions
variable {o : GenerationOptions} {templates : TemplateSet} {batch : List QualifiedName}
  {s : Surface} {ss : List Surface} {mode : EntryPointMode} {files : List SourceFile}

theorem writeClasses_eq (h : o.classFiles templates batch s = .ok files) :
    (o.writeClasses templates batch s : m _) = SourceFile.writeAll files := by
  rw [classFiles] at h
  rw [writeClasses]
  split at h
  · next hpair => rw [if_pos hpair, SourceWriter.writeHierarchical, h, SourceWriter.writing]
  · next hflat =>
    obtain ⟨f, hf, h⟩ := bind_eq_ok_iff.1 h
    obtain rfl := Except.ok.inj h
    rw [if_neg hflat, SourceWriter.writeFlat, hf, SourceWriter.writing,
      SourceFile.writeAll_singleton]

theorem writeEntryPoint_eq {file? : Option SourceFile}
    (h : (o.writer templates).entryPointFile? ss mode = .ok file?) :
    (o.writeEntryPoint templates ss mode : m _) = SourceFile.writeAll file?.toList := by
  rw [writeEntryPoint, SourceWriter.writeEntryPoint, h, SourceWriter.writing]
  cases file? with
  | none => exact pure_bind ..
  | some f =>
    rw [Option.toList_some, SourceFile.writeAll_singleton]
    simp only [bind_assoc, pure_bind]
    exact bind_congr_except (fun _ => rfl) fun _ => rfl

/-- Where all sources can be made, it makes no difference whether all of them are made before the
    first one is written. -/
theorem writeSources_eq (h : o.sourceFiles templates ss = .ok files) :
    (o.writeSources templates ss : m _) = SourceFile.writeAll files := by
  obtain ⟨classes, entryPoints, hclasses, hentryPoints, rfl⟩ := sourceFiles_eq_ok_iff.1 h
  have hwriteClasses : ss.map (o.writeClasses templates (ss.map (·.subject)) : Surface → m _) =
      classes.map SourceFile.writeAll :=
    (map_eq_of_mapM (fun _ _ _ hfiles => (writeClasses_eq hfiles).symm) hclasses).symm
  have hwriteEntryPoints : o.entryPoints.map (o.writeEntryPoint templates ss : _ → m _) =
      (entryPoints.map Option.toList).map SourceFile.writeAll := by
    rw [List.map_map]
    exact (map_eq_of_mapM (fun _ _ _ hfile => (writeEntryPoint_eq hfile).symm) hentryPoints).symm
  rw [writeSources, hwriteClasses, hwriteEntryPoints, ← List.map_append,
    writeInTurn_map_writeAll, List.flatten_append, List.filterMap_eq_flatMap_toList]
  rfl

end GenerationOptions
end

/-! ## Runs -/

namespace GenerationOptions
variable {σ : Type} [FileAccess (StateM σ)] [Undisturbed σ]

/-- A run comes to what it would come to if each source were written before the next is made. -/
theorem run_eq_runInTurn (o : GenerationOptions) (c : Catalog) :
    (o.run c : StateM σ _) = o.runInTurn c := by
  funext s
  show (o.run c : StateM σ _).run s = (o.runInTurn c : StateM σ _).run s
  rw [runInTurn, run_bind_eq]
  rcases hload : (o.loadTemplates : StateM σ _).run s with ⟨e | templates, s'⟩
  · rw [run, run_bind_eq, hload]
    rfl
  · dsimp only
    cases hsurfaces : o.surfaces c with
    | error cause =>
      have hplan : o.plan c templates = .error (.catalog cause) := by
        rw [plan, hsurfaces]
        rfl
      rw [run_of_plan_eq_error hload hplan]
      rfl
    | ok ss =>
      -- The templates that are taken from a directory are put in the place of others, so there
      -- is one for every role and all sources can be made.
      have hcomplete : templates.Complete := complete_of_loadTemplates (congrArg Prod.fst hload)
      obtain ⟨files, hfiles⟩ := exists_sourceFiles (o := o) hcomplete ss
      rw [run_of_plan_eq_ok hload (plan_eq_ok_iff.2 ⟨ss, hsurfaces, rfl, hfiles⟩)]
      dsimp only
      rw [writeSources_eq hfiles]
      rfl

end GenerationOptions
end AssertionWriter
