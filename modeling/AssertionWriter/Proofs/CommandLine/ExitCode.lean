/-
  AssertionWriter.Proofs.CommandLine.ExitCode

  The exit codes of the program. Of the ways in which a generation can fail, those that the
  request is to blame for give 2 and those of the files give 3, so the code for anything else
  never comes up; and where the request is to blame, the files are as they were.
-/
import AssertionWriter.CommandLine.Program
import AssertionWriter.Proofs.Generation.Failure
import AssertionWriter.Proofs.Generation.Sources

namespace AssertionWriter.CommandLine
open Files GenerationOptions

variable {σ : Type} [FileAccess (StateM σ)]

/-- The code 2 is for requests that ask for nothing there is, and 3 for all else. -/
theorem exitCode_of_failsWith {o : GenerationOptions} {c : Catalog} {s : σ} {e : GenerationError}
    (h : o.FailsWith c s e) :
    exitCode (.error (.generation e)) = 3 ∨
      exitCode (.error (.generation e)) = 2 ∧ ∀ path cause, e ≠ .write path cause := by
  cases h with
  | request => exact .inr ⟨rfl, fun _ _ heq => by cases heq⟩
  | absent => exact .inl rfl
  | unreadable => exact .inl rfl
  | write => exact .inl rfl

variable [Undisturbed σ]

/-- With a catalog that can be read, the program does what the generation does. -/
theorem run_command {command : Command} {s : σ} {text : String} {c : Catalog}
    (hread : ((FileAccess.readText command.catalog : StateM σ _).run s).1 = .ok text)
    (hparse : Catalog.parse text = .ok c) :
    (command.run : StateM σ _).run s =
      (((command.options.run c : StateM σ _).run s).1.mapError .generation,
        ((command.options.run c : StateM σ _).run s).2) := by
  rw [Command.run, (Undisturbed.readText command.catalog).run_bind, hread]
  dsimp only
  rw [hparse]
  rfl

theorem exitCode_run (command : Command) (s : σ) :
    exitCode ((command.run : StateM σ _).run s).1 = 0 ∨
      exitCode ((command.run : StateM σ _).run s).1 = 3 ∨
        exitCode ((command.run : StateM σ _).run s).1 = 2 ∧
          ((command.run : StateM σ _).run s).2 = s := by
  cases hread : ((FileAccess.readText command.catalog : StateM σ _).run s).1 with
  | error e =>
    rw [Command.run, (Undisturbed.readText command.catalog).run_bind, hread]
    exact .inr (.inl rfl)
  | ok text =>
    cases hparse : Catalog.parse text with
    | error fault =>
      rw [Command.run, (Undisturbed.readText command.catalog).run_bind, hread]
      dsimp only
      rw [hparse]
      exact .inr (.inr ⟨rfl, rfl⟩)
    | ok c =>
      rw [run_command hread hparse]
      cases hrun : ((command.options.run c : StateM σ _).run s).1 with
      | ok report => exact .inl rfl
      | error e =>
        obtain ⟨hfails, hunchanged⟩ := failsWith_of_run hrun
        rcases exitCode_of_failsWith hfails with hcode | ⟨hcode, hnot⟩
        · exact .inr (.inl hcode)
        · exact .inr (.inr ⟨hcode, hunchanged hnot⟩)

/-- Where nobody else changes the files, a generation fails only because a request asks for
    nothing there is, because the templates cannot be had from their directory, or because a file
    cannot be written; before it writes it changes nothing. So the program exits with 0, 2 or 3,
    and with 2 it has changed nothing. -/
theorem failures_of_run :
    (∀ (o : GenerationOptions) (c : Catalog) (s : σ) (e : GenerationError),
      ((o.run c : StateM σ _).run s).1 = .error e →
        o.FailsWith c s e ∧
          ((∀ path cause, e ≠ .write path cause) → ((o.run c : StateM σ _).run s).2 = s)) ∧
    ∀ (command : Command) (s : σ),
      exitCode ((command.run : StateM σ _).run s).1 ∈ [0, 2, 3] ∧
        (exitCode ((command.run : StateM σ _).run s).1 = 2 →
          ((command.run : StateM σ _).run s).2 = s) := by
  refine ⟨fun o c s e h => failsWith_of_run h, fun command s => ?_⟩
  rcases exitCode_run command s with hcode | hcode | ⟨hcode, hunchanged⟩
  · rw [hcode]
    exact ⟨by decide, fun h => absurd h (by decide)⟩
  · rw [hcode]
    exact ⟨by decide, fun h => absurd h (by decide)⟩
  · rw [hcode]
    exact ⟨by decide, fun _ => hunchanged⟩

/-! ## A request for nothing there is -/

/-- A file system with a catalog. -/
def withCatalog (text : String) : FileSystem :=
  FileSystem.empty.put ["work", "catalog.json"] (.file (.text text))

/-- A command that asks for the package of two types, and for another one. -/
def unanswered : Command where
  catalog := "catalog.json"
  options := { allTypes with types := ["p", " q "] }

theorem run_unanswered (fs : FileSystem) :
    ((unanswered.options.run Catalog.sameFlatNames : StateM FileSystem _).run fs).1 =
      .error (.catalog (.notFound "q")) := by
  have hselect : Catalog.sameFlatNames.select ["p", " q "] = .error (.notFound "q") := by
    decide
  have hselection : unanswered.options.selection Catalog.sameFlatNames =
      .error (.notFound "q") := hselect
  have hplan : unanswered.options.plan Catalog.sameFlatNames .default =
      .error (.catalog (.notFound "q")) := by
    rw [plan, surfaces, hselection]
    rfl
  rw [run_of_plan_eq_error (run_loadTemplates_of_none rfl fs) hplan]

/-- The first request is answered, and the second one keeps anything from being written. -/
theorem failures_of_run_unanswered :
    ((unanswered.options.run Catalog.sameFlatNames : StateM FileSystem _).run
        (withCatalog Catalog.sameFlatNames.toText)).1 = .error (.catalog (.notFound "q")) ∧
      unanswered.options.FailsWith Catalog.sameFlatNames
        (withCatalog Catalog.sameFlatNames.toText) (.catalog (.notFound "q")) ∧
      exitCode ((unanswered.run : StateM FileSystem _).run
        (withCatalog Catalog.sameFlatNames.toText)).1 = 2 ∧
      ((unanswered.run : StateM FileSystem _).run
        (withCatalog Catalog.sameFlatNames.toText)).2 =
          withCatalog Catalog.sameFlatNames.toText := by
  have hread : ∀ text, ((FileAccess.readText unanswered.catalog : StateM FileSystem _).run
      (withCatalog text)).1 = .ok text := fun _ => rfl
  have hrun := run_unanswered (withCatalog Catalog.sameFlatNames.toText)
  have hcode : exitCode ((unanswered.run : StateM FileSystem _).run
      (withCatalog Catalog.sameFlatNames.toText)).1 = 2 := by
    rw [run_command (hread _) Catalog.parse_sameFlatNames, hrun]
    rfl
  exact ⟨hrun, (failures_of_run.1 _ _ _ _ hrun).1, hcode, (failures_of_run.2 _ _).2 hcode⟩

end AssertionWriter.CommandLine
