/-
  AssertionWriter.Proofs.Generation.MissingTemplates

  Writing with templates for some of the roles only. What is written is made as a whole
  before the files are touched, so a template that is missing is found before anything has
  changed, in a pair of classes too.
-/
import AssertionWriter.Proofs.Generation.Failure

namespace AssertionWriter
open Files Template

/-- An action that names the first needed role without a template, if there is one, and then leaves
    the state as it is. -/
structure FailsForMissing {σ β : Type} (t : TemplateSet) (needed : List Role)
    (action : StateM σ (Except GenerationError β)) : Prop where
  fails : ∀ s, (∃ r, (action.run s).1 = .error (.missingTemplate r)) ↔
    ∃ r ∈ needed, t.find? r = none
  first : ∀ s r, (action.run s).1 = .error (.missingTemplate r) ↔ t.IsFirstMissing needed r
  unchanged : ∀ s, (∃ r ∈ needed, t.find? r = none) → (action.run s).2 = s

namespace SourceWriter

section
variable {σ α β : Type} {t : TemplateSet} {needed : List Role} {made : Except Role α}
  {write : α → StateM σ (Except GenerationError β)}

theorem failsForMissing_writing (hmade : Needs t needed made)
    (hwrite : ∀ a s r, ((write a).run s).1 ≠ .error (.missingTemplate r)) :
    FailsForMissing t needed (writing made write) := by
  have hfirst : ∀ s r, ((writing made write).run s).1 = .error (.missingTemplate r) ↔
      t.IsFirstMissing needed r := by
    intro s r
    rw [← hmade r]
    cases made with
    | error q =>
      constructor
      · intro h
        rw [GenerationError.missingTemplate.inj (Except.error.inj h)]
      · intro h
        rw [Except.error.inj h]
        rfl
    | ok a => exact ⟨fun h => absurd h (hwrite a s r), nofun⟩
  refine ⟨fun s => (exists_congr (hfirst s)).trans TemplateSet.exists_isFirstMissing_iff, hfirst,
    fun s hmissing => ?_⟩
  -- Nothing has been made, so nothing is written.
  obtain ⟨r, hr⟩ := TemplateSet.exists_isFirstMissing_iff.2 hmissing
  rw [(hmade r).2 hr]
  rfl

end

section
variable {σ : Type} [FileAccess (StateM σ)]

theorem write_ne_missingTemplate (f : SourceFile) (s : σ) (r : Role) :
    ((f.write : StateM σ _).run s).1 ≠ .error (.missingTemplate r) := by
  intro h
  obtain ⟨path, cause, -, he⟩ := GenerationOptions.write_eq_error h
  cases he

theorem writeAll_ne_missingTemplate (files : List SourceFile) (s : σ) (r : Role) :
    ((SourceFile.writeAll files : StateM σ _).run s).1 ≠ .error (.missingTemplate r) := by
  intro h
  obtain ⟨f, -, path, cause, -, he⟩ := GenerationOptions.writeAll_eq_error h
  cases he

/-- Whatever templates there are, a class, a pair of classes and an entry point are not written at
    all if one that is needed is missing, and the first one is named. -/
theorem failsForMissing_write (w : SourceWriter) (s : Surface) (batch : List QualifiedName)
    (ss : List Surface) (mode : EntryPointMode) :
    FailsForMissing w.templates s.flatRoles (w.writeFlat s : StateM σ _) ∧
    FailsForMissing w.templates s.hierarchicalRoles (w.writeHierarchical s batch : StateM σ _) ∧
    FailsForMissing w.templates (EntryPoint.roles ss mode)
      (w.writeEntryPoint ss mode : StateM σ _) := by
  refine ⟨failsForMissing_writing (w.needs_flatFile s) write_ne_missingTemplate,
    failsForMissing_writing (w.needs_hierarchicalFiles s batch) writeAll_ne_missingTemplate,
    failsForMissing_writing (w.needs_entryPointFile? ss mode) fun file? fs r h => ?_⟩
  cases file? with
  | none => cases h
  | some f =>
    rw [GenerationOptions.run_bind_eq] at h
    exact write_ne_missingTemplate f fs r (map_eq_error_iff.1 h)

/-- Where only the second frame is missing, the abstract class is not written either. -/
example (fs : FileSystem) (base : String) :
    let templates := ⟨fun r => if r = .hierarchicalAssertClass then none else some r.body⟩
    let w : SourceWriter := { templates, package := none, base }
    (w.writeHierarchical (.bare .object) [] : StateM FileSystem _).run fs =
      (.error (.missingTemplate .hierarchicalAssertClass), fs) := rfl

end
end SourceWriter
end AssertionWriter
