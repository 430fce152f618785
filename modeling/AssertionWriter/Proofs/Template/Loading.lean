/-
  AssertionWriter.Proofs.Template.Loading

  Templates that are taken from a directory. Taking them changes no file; there is a
  template for every role before and after; and it fails only if the directory is not there
  or one of its template files cannot be read.
-/
import AssertionWriter.Proofs.Fallible
import AssertionWriter.Proofs.Files.Looking
import AssertionWriter.Template.TemplateSet

namespace AssertionWriter
open Files Template

namespace TemplateSet

/-! ## Complete sets -/

/-- There is a template for every role. -/
def Complete (t : TemplateSet) : Prop := ∀ r, ∃ body, t.find? r = some body

variable {t : TemplateSet}

theorem complete_default : default.Complete := fun r => ⟨r.body, rfl⟩

theorem Complete.set (h : t.Complete) (r : Role) (body : String) : (t.set r body).Complete := by
  intro r'
  rw [find?_set]
  split
  · exact ⟨body, rfl⟩
  · exact h r'

/-! ## What there is to read -/

variable {σ : Type} [FileAccess (StateM σ)] {path directory : String} {s : σ} {e : TemplateError}

/-- The file cannot be read. -/
structure IsUnreadable (s : σ) (path : String) (cause : FileError) : Prop where
  isFile : ((FileAccess.isFile path : StateM σ _).run s).1 = true
  readText : ((FileAccess.readText path : StateM σ _).run s).1 = .error cause

/-- What a directory holds for a role: the text in the role's file, or why it cannot be read. -/
def held (s : σ) (directory : String) (r : Role) : Option (Except FileError String) :=
  if ((FileAccess.isFile (under directory r.file) : StateM σ _).run s).1 = true then
    some ((FileAccess.readText (under directory r.file) : StateM σ _).run s).1
  else none

theorem isUnreadable_iff_held {r : Role} {cause : FileError} :
    IsUnreadable s (under directory r.file) cause ↔ held s directory r = some (.error cause) := by
  rw [held]
  split
  · next hfile => exact ⟨fun h => congrArg some h.readText, fun h => ⟨hfile, Option.some.inj h⟩⟩
  · next hfile => exact ⟨fun h => absurd h.isFile hfile, nofun⟩

/-! ## One file -/

variable [Undisturbed σ]

theorem looks_load (path : String) : Looks (load path : StateM σ _) := by
  refine (Undisturbed.isDirectory path).bind fun isDirectory => ?_
  split
  · exact Looks.pure _
  · refine (Undisturbed.readText path).bind fun read => ?_
    split <;> exact Looks.pure _

/-- Loading a file is reading it; it was looked at before, so it is no directory and is found. -/
theorem run_load (hfile : ((FileAccess.isFile path : StateM σ _).run s).1 = true) :
    ((load path : StateM σ _).run s).1 =
      ((FileAccess.readText path : StateM σ _).run s).1.mapError (.unreadable path) := by
  have hfound := Undisturbed.found path s hfile
  rw [load, (Undisturbed.isDirectory path).run_bind, Undisturbed.not_directory path s hfile,
    if_neg Bool.false_ne_true, (Undisturbed.readText path).run_bind]
  split
  · next body hread => rw [hread]; rfl
  · next hread => exact absurd hread hfound
  · next cause _ hread => rw [hread]; rfl

/-! ## The files of a directory -/

theorem looks_overrideEach (directory : String) (t : TemplateSet) (roles : List Role) :
    Looks (overrideEach directory t roles : StateM σ _) := by
  induction roles generalizing t with
  | nil => exact Looks.pure _
  | cons r roles ih =>
    rw [overrideEach]
    refine (Undisturbed.isFile _).bind fun isFile => ?_
    split
    · refine (looks_load _).bind fun loaded => ?_
      split
      · exact Looks.pure _
      · exact (ih _).bind fun _ => Looks.pure _
    · exact ih t

/-- One step: a role that the directory holds nothing for is passed over, one whose file can be
    read gets its text, and any other one ends the taking. -/
theorem run_overrideEach_cons (directory : String) (t : TemplateSet) (r : Role)
    (roles : List Role) (s : σ) :
    ((overrideEach directory t (r :: roles) : StateM σ _).run s).1 =
      match held s directory r with
      | none => ((overrideEach directory t roles : StateM σ _).run s).1
      | some (.ok body) =>
        ((overrideEach directory (t.set r body) roles : StateM σ _).run s).1.map id
          (·.map (r :: ·))
      | some (.error cause) => (t, .error (.unreadable (under directory r.file) cause)) := by
  rw [overrideEach, (Undisturbed.isFile _).run_bind, held]
  split
  · next hfile =>
    rw [(looks_load _).run_bind, run_load hfile]
    cases ((FileAccess.readText (under directory r.file) : StateM σ _).run s).1 with
    | error cause => rfl
    | ok body =>
      show ((overrideEach directory (t.set r body) roles >>= fun x => pure _ :
        StateM σ _).run s).1 = _
      rw [(looks_overrideEach _ _ _).run_bind]
      rfl
  · rfl

/-- Templates are only ever replaced. -/
theorem Complete.overrideEach (h : t.Complete) (directory : String) (roles : List Role) (s : σ) :
    ((overrideEach directory t roles : StateM σ _).run s).1.1.Complete := by
  induction roles generalizing t with
  | nil => exact h
  | cons r roles ih =>
    rw [run_overrideEach_cons]
    split
    · exact ih h
    · exact ih (h.set r _)
    · exact h

theorem isUnreadable_of_overrideEach {roles : List Role}
    (h : ((overrideEach directory t roles : StateM σ _).run s).1.2 = .error e) :
    ∃ (r : Role) (cause : FileError), IsUnreadable s (under directory r.file) cause ∧
      e = .unreadable (under directory r.file) cause := by
  induction roles generalizing t with
  | nil => cases h
  | cons r roles ih =>
    rw [run_overrideEach_cons] at h
    split at h
    · exact ih h
    · exact ih (map_eq_error_iff.1 h)
    · next cause hheld =>
      exact ⟨r, cause, isUnreadable_iff_held.2 hheld, (Except.error.inj h).symm⟩

theorem looks_overrideFrom (directory : String) (t : TemplateSet) :
    Looks (overrideFrom directory t : StateM σ _) := by
  refine (Undisturbed.isPresent directory).bind fun isPresent => ?_
  split
  · exact looks_overrideEach _ _ _
  · exact Looks.pure _

theorem Complete.overrideFrom (h : t.Complete) (directory : String) (s : σ) :
    ((overrideFrom directory t : StateM σ _).run s).1.1.Complete := by
  rw [TemplateSet.overrideFrom, (Undisturbed.isPresent directory).run_bind]
  split
  · exact h.overrideEach directory Role.all s
  · exact h

/-- A directory that is there gives no templates only if one of its files cannot be read. -/
theorem isUnreadable_of_overrideFrom
    (h : ((overrideFrom directory t : StateM σ _).run s).1.2 = .error e) :
    ((FileAccess.isPresent directory : StateM σ _).run s).1 = false ∧ e = .notFound directory ∨
      ∃ (r : Role) (cause : FileError), IsUnreadable s (under directory r.file) cause ∧
        e = .unreadable (under directory r.file) cause := by
  rw [overrideFrom, (Undisturbed.isPresent directory).run_bind] at h
  split at h
  · exact .inr (isUnreadable_of_overrideEach h)
  · next habsent => exact .inl ⟨Bool.eq_false_iff.2 habsent, (Except.error.inj h).symm⟩

end TemplateSet
end AssertionWriter
