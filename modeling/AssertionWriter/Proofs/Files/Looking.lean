/-
  AssertionWriter.Proofs.Files.Looking

  Actions that only look at files. Where nobody else changes the files, looking leaves them
  as they are, and what has been seen still holds when it is looked at again.
-/
import AssertionWriter.Files.FileSystem

namespace AssertionWriter.Files

variable {σ α β : Type}

/-! ## Looking -/

/-- The action leaves the state as it is. -/
def Looks (x : StateM σ α) : Prop := ∀ s, (x.run s).2 = s

namespace Looks

variable {x : StateM σ α} {f : α → StateM σ β}

theorem pure (a : α) : Looks (Pure.pure a : StateM σ α) := fun _ => rfl

/-- What follows finds the same state. -/
theorem run_bind (hx : Looks x) (s : σ) : (x >>= f).run s = (f (x.run s).1).run s := by
  show (f (x.run s).1).run (x.run s).2 = (f (x.run s).1).run s
  rw [hx]

theorem bind (hx : Looks x) (hf : ∀ a, Looks (f a)) : Looks (x >>= f) := by
  intro s
  rw [hx.run_bind]
  exact hf _ s

end Looks

/-! ## Undisturbed files -/

/-- Files that nobody else changes. Looking at them changes nothing either, and a file that is
    there is no directory, and is found when it is read. -/
class Undisturbed (σ : Type) [FileAccess (StateM σ)] : Prop where
  isPresent : ∀ path, Looks (FileAccess.isPresent path : StateM σ Bool)
  isDirectory : ∀ path, Looks (FileAccess.isDirectory path : StateM σ Bool)
  isFile : ∀ path, Looks (FileAccess.isFile path : StateM σ Bool)
  readText : ∀ path, Looks (FileAccess.readText path : StateM σ (Except FileError String))
  not_directory : ∀ path s, ((FileAccess.isFile path : StateM σ Bool).run s).1 = true →
    ((FileAccess.isDirectory path : StateM σ Bool).run s).1 = false
  found : ∀ path s, ((FileAccess.isFile path : StateM σ Bool).run s).1 = true →
    ((FileAccess.readText path : StateM σ (Except FileError String)).run s).1 ≠ .error .notFound

namespace FileSystem

variable {fs : FileSystem} {path : String}

theorem isFile_iff : fs.isFile path = true ↔ ∃ content, fs.nodeAt path = .ok (.file content) := by
  rw [isFile]
  split
  · next content h => simp [h]
  · next h => simpa using h

theorem isDirectory_of_isFile (h : fs.isFile path = true) : fs.isDirectory path = false := by
  obtain ⟨content, hnode⟩ := isFile_iff.1 h
  rw [isDirectory, hnode]

theorem readText_of_isFile (h : fs.isFile path = true) : fs.readText path ≠ .error .notFound := by
  obtain ⟨content, hnode⟩ := isFile_iff.1 h
  rw [readText, hnode]
  cases content with
  | text s => exact fun h => by cases h
  | binary bytes => exact fun h => by cases h

instance : Undisturbed FileSystem where
  isPresent _ _ := rfl
  isDirectory _ _ := rfl
  isFile _ _ := rfl
  readText _ _ := rfl
  not_directory _ _ h := isDirectory_of_isFile h
  found _ _ h := readText_of_isFile h

end FileSystem
end AssertionWriter.Files
