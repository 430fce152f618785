/-
  AssertionWriter.Proofs.Files.Following

  Where paths lead on a file system. What has been made stays, so a path goes on leading
  where it led; a directory is made, and a text written, at the place that its path leads
  to.
-/
import AssertionWriter.Files.FileSystem
import AssertionWriter.Proofs.Fallible

namespace AssertionWriter.Files.FileSystem

/-! ## Paths -/

/-- Where a path leads, if all directories on the way are there. -/
def Leads (fs : FileSystem) (path : String) (loc : Location) : Prop :=
  fs.follow (fs.start path) (parts path) = .ok loc

/-- A file system with all directories of another one. -/
structure Keeps (fs fs' : FileSystem) : Prop where
  workingDirectory : fs'.workingDirectory = fs.workingDirectory
  directories : ∀ l, fs.node? l = some .directory → fs'.node? l = some .directory

theorem Keeps.refl (fs : FileSystem) : fs.Keeps fs := ⟨rfl, fun _ h => h⟩

variable {fs fs' fs'' : FileSystem} {loc l : Location} {path text : String}

theorem Keeps.trans (h : fs.Keeps fs') (h' : fs'.Keeps fs'') : fs.Keeps fs'' :=
  ⟨h'.workingDirectory.trans h.workingDirectory, fun l hl => h'.directories l (h.directories l hl)⟩

theorem directoryAt_eq_ok :
    fs.directoryAt loc = .ok l ↔ fs.node? loc = some .directory ∧ l = loc := by
  rw [directoryAt]
  split
  · next h => simp [h]
  · next h => simp [h]
  · next h => simp [h, eq_comm]

/-- What leads somewhere still leads there when more has been made. -/
theorem Keeps.follow (h : fs.Keeps fs') {ps : List String} (hf : fs.follow loc ps = .ok l) :
    fs'.follow loc ps = .ok l := by
  induction ps generalizing loc with
  | nil => exact hf
  | cons p ps ih =>
    rw [FileSystem.follow, bind_eq_ok_iff] at hf ⊢
    obtain ⟨dir, hdir, hrest⟩ := hf
    obtain ⟨next, hnext, hrest⟩ := bind_eq_ok_iff.1 hrest
    obtain ⟨hnode, rfl⟩ := directoryAt_eq_ok.1 hdir
    refine ⟨dir, directoryAt_eq_ok.2 ⟨h.directories dir hnode, rfl⟩, ?_⟩
    exact bind_eq_ok_iff.2 ⟨next, hnext, ih hrest⟩

theorem Keeps.start_eq (h : fs.Keeps fs') (path : String) : fs'.start path = fs.start path := by
  rw [start, start, h.workingDirectory]

theorem Keeps.leads (h : fs.Keeps fs') (hl : fs.Leads path l) : fs'.Leads path l := by
  rw [Leads, h.start_eq]
  exact h.follow hl

/-- Where there is no directory, something can be put without a loss of directories. -/
theorem keeps_put {node : Node} (h : fs.node? loc ≠ some .directory) :
    fs.Keeps (fs.put loc node) := by
  refine ⟨rfl, fun l hl => ?_⟩
  rw [node?_put]
  split
  · rfl
  · split
    · next hloc => exact absurd (hloc ▸ hl) h
    · exact hl

theorem follow_append_eq_ok {ps qs : List String} :
    fs.follow loc (ps ++ qs) = .ok l ↔
      ∃ m, fs.follow loc ps = .ok m ∧ fs.follow m qs = .ok l := by
  induction ps generalizing loc with
  | nil => exact ⟨fun h => ⟨loc, rfl, h⟩, fun ⟨m, hm, h⟩ => Except.ok.inj hm ▸ h⟩
  | cons p ps ih =>
    simp only [List.cons_append, FileSystem.follow, bind_eq_ok_iff, ih]
    constructor
    · rintro ⟨dir, hdir, next, hnext, m, hm, h⟩
      exact ⟨m, ⟨dir, hdir, next, hnext, hm⟩, h⟩
    · rintro ⟨m, ⟨dir, hdir, next, hnext, hm⟩, h⟩
      exact ⟨dir, hdir, next, hnext, m, hm, h⟩

/-- One part leads from a directory to what it enters. -/
theorem follow_singleton_eq_ok {part : String} :
    fs.follow loc [part] = .ok l ↔ fs.node? loc = some .directory ∧ enter loc part = .ok l := by
  simp only [FileSystem.follow, bind_eq_ok_iff, directoryAt_eq_ok]
  constructor
  · rintro ⟨dir, ⟨hnode, rfl⟩, next, hnext, h⟩
    exact ⟨hnode, hnext.trans h⟩
  · rintro ⟨hnode, h⟩
    exact ⟨loc, ⟨hnode, rfl⟩, l, h, rfl⟩

/-- Empty parts stay where they are. -/
theorem follow_replicate (h : fs.node? loc = some .directory) (slashes : Nat) :
    fs.follow loc (List.replicate slashes "") = .ok loc := by
  induction slashes with
  | zero => rfl
  | succ slashes ih =>
    rw [List.replicate_succ, ← List.singleton_append, follow_append_eq_ok]
    exact ⟨loc, follow_singleton_eq_ok.2 ⟨h, rfl⟩, ih⟩

/-- A text that ends with an empty piece is empty or ends with the separator. -/
theorem getLast?_of_splitOn {sep : Char} {s : List Char}
    (h : (Text.splitOn sep s).getLast? = some []) : s = [] ∨ s.getLast? = some sep := by
  induction s with
  | nil => exact .inl rfl
  | cons c cs ih =>
    obtain ⟨piece, pieces, hcs⟩ := List.exists_cons_of_ne_nil (Text.splitOn_ne_nil sep cs)
    rw [Text.splitOn] at h
    split at h
    · next hc =>
      rw [hcs, List.getLast?_cons_cons, ← hcs] at h
      rcases ih h with rfl | hlast
      · exact .inr (by rw [hc]; rfl)
      · exact .inr (by rw [List.getLast?_cons, hlast]; rfl)
    · rw [hcs] at h
      cases pieces with
      | nil => exact absurd h (by simp)
      | cons q qs =>
        -- The last piece is that of the rest.
        rw [List.getLast?_cons_cons, ← List.getLast?_cons_cons (a := piece), ← hcs] at h
        rcases ih h with rfl | hlast
        · exact absurd hcs (by simp [Text.splitOn])
        · exact .inr (by rw [List.getLast?_cons, hlast]; rfl)

/-! ## Operations -/

theorem placeOf_eq_ok {last : String} (h : fs.placeOf path = .ok (loc, last)) (hlast : last ≠ "") :
    path ≠ "" ∧ ∃ before slashes, parts path = before ++ last :: List.replicate slashes "" ∧
      fs.follow (fs.start path) before = .ok loc ∧ fs.node? loc = some .directory := by
  obtain ⟨checked, hcheck, h⟩ := bind_eq_ok_iff.1 h
  have hne : path ≠ "" := by
    rintro rfl
    have hempty : checkPath "" = .error .notFound := rfl
    rw [hempty] at hcheck
    cases hcheck
  refine ⟨hne, ?_⟩
  split at h
  · obtain ⟨-, rfl⟩ := Prod.mk.inj (Except.ok.inj h)
    exact absurd rfl hlast
  · next final before hparts =>
    obtain ⟨dir, hfollow, h⟩ := bind_eq_ok_iff.1 h
    obtain ⟨dir', hdir, h⟩ := bind_eq_ok_iff.1 h
    obtain ⟨rfl, rfl⟩ := Prod.mk.inj (Except.ok.inj h)
    obtain ⟨hnode, rfl⟩ := directoryAt_eq_ok.1 hdir
    have hsplit := List.takeWhile_append_dropWhile (p := (· = "")) (l := (parts path).reverse)
    -- Only empty parts are dropped from the end.
    obtain ⟨slashes, hempty⟩ : ∃ slashes, (parts path).reverse.takeWhile (· = "") =
        List.replicate slashes "" :=
      ⟨_, List.eq_replicate_of_mem fun p hp =>
        of_decide_eq_true (List.all_eq_true.1 List.all_takeWhile p hp)⟩
    rw [hparts, hempty] at hsplit
    refine ⟨before.reverse, slashes, ?_, hfollow, hnode⟩
    rw [← List.reverse_reverse (parts path), ← hsplit, List.reverse_append, List.reverse_cons,
      List.reverse_replicate, List.append_assoc, List.singleton_append]

/-- A directory is made where the path leads from then on. -/
theorem makeDirectory_eq_ok (h : fs.makeDirectory path = .ok fs') :
    ∃ target, fs.node? target = none ∧ fs' = fs.put target .directory ∧ fs'.Leads path target := by
  obtain ⟨⟨loc, last⟩, hplace, h⟩ := bind_eq_ok_iff.1 h
  dsimp only at h
  split at h
  · exact absurd h (by rintro ⟨⟩)
  · next hdotted =>
    obtain ⟨target, htarget, h⟩ := bind_eq_ok_iff.1 h
    split at h
    · exact absurd h (by rintro ⟨⟩)
    · next hnode =>
      obtain rfl := Except.ok.inj h
      have hlast : last ≠ "" := by
        rintro rfl
        exact hdotted rfl
      obtain ⟨-, before, slashes, hparts, hfollow, hdir⟩ := placeOf_eq_ok hplace hlast
      have hkeeps : fs.Keeps (fs.put target .directory) := keeps_put (by simp [hnode])
      have hmade : (fs.put target .directory).node? target = some .directory := by
        rw [node?_put]
        split
        · rfl
        · rw [if_pos rfl]
      have hbefore : (fs.put target .directory).follow (fs.start path) before = .ok loc :=
        hkeeps.follow hfollow
      refine ⟨target, hnode, rfl, ?_⟩
      rw [Leads, hkeeps.start_eq, hparts, ← List.singleton_append, follow_append_eq_ok]
      refine ⟨loc, hbefore, follow_append_eq_ok.2 ⟨target, ?_, follow_replicate hmade slashes⟩⟩
      exact follow_singleton_eq_ok.2 ⟨hkeeps.directories loc hdir, htarget⟩

/-- A text is written where its path leads. -/
theorem writeText_eq_ok (h : fs.writeText path text = .ok fs') :
    ∃ target, fs.Leads path target ∧ fs.node? target ≠ some .directory ∧
      fs' = fs.put target (.file (.text text)) := by
  obtain ⟨⟨loc, last⟩, hplace, h⟩ := bind_eq_ok_iff.1 h
  dsimp only at h
  split at h
  · exact absurd h (by rintro ⟨⟩)
  · next hrefused =>
    obtain ⟨target, htarget, h⟩ := bind_eq_ok_iff.1 h
    rw [Bool.not_eq_true, Bool.or_eq_false_iff, decide_eq_false_iff_not] at hrefused
    have hlast : last ≠ "" := by
      rintro rfl
      exact absurd hrefused.1 (by decide)
    obtain ⟨hne, before, slashes, hparts, hfollow, hnode⟩ := placeOf_eq_ok hplace hlast
    -- Without a slash at its end the path has no empty part there.
    obtain rfl : slashes = 0 := by
      refine Decidable.byContradiction fun hslashes => ?_
      have hempty : (parts path).getLast? = some "" := by
        obtain ⟨k, rfl⟩ := Nat.exists_eq_succ_of_ne_zero hslashes
        rw [hparts, List.replicate_succ', ← List.cons_append, ← List.append_assoc,
          List.getLast?_concat]
      rw [parts, List.getLast?_map, Option.map_eq_some_iff] at hempty
      obtain ⟨piece, hpiece, hnil⟩ := hempty
      obtain rfl : piece = [] := by simpa using hnil
      rcases getLast?_of_splitOn hpiece with hnil | hslash
      · exact hne (String.toList_eq_nil_iff.1 hnil)
      · exact hrefused.2 hslash
    refine ⟨target, ?_, ?_⟩
    · rw [Leads, hparts, follow_append_eq_ok]
      exact ⟨loc, hfollow, follow_singleton_eq_ok.2 ⟨hnode, htarget⟩⟩
    · split at h
      · exact absurd h (by rintro ⟨⟩)
      · next hother =>
        obtain rfl := Except.ok.inj h
        exact ⟨hother, rfl⟩

end AssertionWriter.Files.FileSystem
