/-
  AssertionWriter.Proofs.Generation.Writing

  What a run leaves on a file system. A step of it makes a directory where there is
  nothing, or writes a source where there is no directory; so directories stay, paths go
  on leading where they led, and a text that was not there before is that of a source.
  Whatever else has changed is a directory that a source needs. Sources for a working
  directory that holds no other one can all be written.
-/
import AssertionWriter.Proofs.Files.Below
import AssertionWriter.Proofs.Generation.Plan

namespace AssertionWriter
open Files Template

/-! ## Sources on a file system -/

open FileSystem

/-- What some sources may have made of a file system: every text that was not there before is that
    of one of them, at its path. -/
structure Written (sources : List SourceFile) (fs fs' : FileSystem) : Prop where
  keeps : fs.Keeps fs'
  texts : ∀ l text, fs'.node? l = some (.file (.text text)) →
    fs.node? l = some (.file (.text text)) ∨ ∃ f ∈ sources, f.content = text ∧ fs'.Leads f.path l

variable {sources : List SourceFile} {fs fs' fs'' : FileSystem}

theorem Written.refl (sources : List SourceFile) (fs : FileSystem) : Written sources fs fs :=
  ⟨Keeps.refl fs, fun _ _ h => .inl h⟩

theorem Written.trans (h : Written sources fs fs') (h' : Written sources fs' fs'') :
    Written sources fs fs'' := by
  refine ⟨h.keeps.trans h'.keeps, fun l text hl => ?_⟩
  -- A path that led to a text still leads there, as directories stay.
  rcases h'.texts l text hl with hl | hl
  · refine (h.texts l text hl).imp_right ?_
    rintro ⟨f, hf, hcontent, hleads⟩
    exact ⟨f, hf, hcontent, h'.keeps.leads hleads⟩
  · exact .inr hl

theorem written_makeDirectory {path : String} (h : fs.makeDirectory path = .ok fs') :
    Written sources fs fs' := by
  obtain ⟨target, hnone, rfl, -⟩ := makeDirectory_eq_ok h
  refine ⟨keeps_put (by simp [hnone]), fun l text hl => ?_⟩
  rw [node?_put] at hl
  split at hl
  · exact absurd hl (by simp)
  · split at hl
    · exact absurd hl (by simp)
    · exact .inl hl

theorem written_writeText {f : SourceFile} (hf : f ∈ sources)
    (h : fs.writeText f.path f.content = .ok fs') : Written sources fs fs' := by
  obtain ⟨target, hleads, hnode, rfl⟩ := writeText_eq_ok h
  have hkeeps : fs.Keeps (fs.put target (.file (.text f.content))) := keeps_put hnode
  refine ⟨hkeeps, fun l text hl => ?_⟩
  rw [node?_put] at hl
  -- The place is the root, which is a directory, that of the source, or any other one.
  split at hl
  · exact absurd hl (by simp)
  · split at hl
    · next htarget =>
      simp only [Option.some.injEq, Node.file.injEq, FileContent.text.injEq] at hl
      exact .inr ⟨f, hf, hl, hkeeps.leads (htarget ▸ hleads)⟩
    · exact .inl hl

/-! ## What writing keeps -/

/-- Actions that take every file system to one that it is related to. -/
def Relates {α : Type} (R : FileSystem → FileSystem → Prop) (x : StateM FileSystem α) : Prop :=
  ∀ fs, R fs (x.run fs).2

/-- A relation between file systems that holds of the steps in which a source is written. -/
structure Allows (R : FileSystem → FileSystem → Prop) (f : SourceFile) : Prop where
  makeDirectory : ∀ path ∈ f.directory :: parents f.directory, ∀ fs fs',
    fs.makeDirectory path = .ok fs' → R fs fs'
  writeText : ∀ fs fs', fs.writeText f.path f.content = .ok fs' → R fs fs'

section
variable {R : FileSystem → FileSystem → Prop} (hrefl : ∀ fs, R fs fs)
  (htrans : ∀ fs fs' fs'', R fs fs' → R fs' fs'' → R fs fs'')

include htrans in
theorem Relates.bind {α β : Type} {x : StateM FileSystem α} {f : α → StateM FileSystem β}
    (hx : Relates R x) (hf : ∀ a, Relates R (f a)) : Relates R (x >>= f) :=
  fun fs => htrans _ _ _ (hx fs) (hf _ _)

include hrefl

theorem relates_pure {α : Type} (a : α) : Relates R (pure a) := hrefl

theorem relates_makeDirectory {path : String}
    (h : ∀ fs fs', fs.makeDirectory path = .ok fs' → R fs fs') :
    Relates R (FileAccess.makeDirectory path : StateM FileSystem _) := by
  intro fs
  change R fs (fs.settle (fs.makeDirectory path)).2
  cases hmade : fs.makeDirectory path with
  | error e => exact hrefl fs
  | ok fs' => exact h fs fs' hmade

theorem relates_writeText {path text : String}
    (h : ∀ fs fs', fs.writeText path text = .ok fs' → R fs fs') :
    Relates R (FileAccess.writeText path text : StateM FileSystem _) := by
  intro fs
  change R fs (fs.settle (fs.writeText path text)).2
  cases hwritten : fs.writeText path text with
  | error e => exact hrefl fs
  | ok fs' => exact h fs fs' hwritten

theorem relates_orPresent (path : String) (e : FileError) :
    Relates R (orPresent path e : StateM FileSystem _) := hrefl

include htrans

theorem relates_makeFirst {paths : List String}
    (h : ∀ path ∈ paths, ∀ fs fs', fs.makeDirectory path = .ok fs' → R fs fs') :
    Relates R (makeFirst paths : StateM FileSystem _) := by
  induction paths with
  | nil => exact relates_pure hrefl _
  | cons path above ih =>
    have hmake := relates_makeDirectory hrefl (h path (List.mem_cons_self ..))
    have ih := ih fun p hp => h p (List.mem_cons_of_mem _ hp)
    rw [makeFirst]
    -- Every branch makes directories and nothing else.
    refine hmake.bind htrans fun made => ?_
    split
    · exact relates_pure hrefl _
    · refine ih.bind htrans fun madeAbove => ?_
      split
      · exact relates_pure hrefl _
      · refine hmake.bind htrans fun again => ?_
        split
        · exact relates_pure hrefl _
        · exact relates_orPresent hrefl _ _
    · exact relates_orPresent hrefl _ _

theorem relates_write {f : SourceFile} (h : Allows R f) :
    Relates R (f.write : StateM FileSystem _) := by
  have hmake : Relates R (makeDirectories f.directory : StateM FileSystem _) := by
    rw [makeDirectories]
    split
    · exact relates_pure hrefl _
    · exact relates_makeFirst hrefl htrans h.makeDirectory
  rw [SourceFile.write]
  refine hmake.bind htrans fun made => ?_
  split
  · exact relates_pure hrefl _
  · refine (relates_writeText hrefl h.writeText).bind htrans fun written => ?_
    split
    · exact relates_pure hrefl _
    · exact relates_pure hrefl _

/-- What the steps for each of some files keep, the writing of all of them keeps. -/
theorem relates_writeAll {files : List SourceFile} (h : ∀ f ∈ files, Allows R f) :
    Relates R (SourceFile.writeAll files : StateM FileSystem _) := by
  induction files with
  | nil => exact relates_pure hrefl _
  | cons f files ih =>
    have hwrite := relates_write hrefl htrans (h f (List.mem_cons_self ..))
    have ih := ih fun g hg => h g (List.mem_cons_of_mem _ hg)
    rw [SourceFile.writeAll]
    refine hwrite.bind htrans fun path => ?_
    split
    · exact relates_pure hrefl _
    · exact ih.bind htrans fun rest => relates_pure hrefl _

end

/-- What some sources may have changed: besides their texts there are directories where there was
    nothing before, for these sources or around the directories for them. -/
structure Changed (sources : List SourceFile) (fs fs' : FileSystem) : Prop
    extends Written sources fs fs' where
  others : ∀ l, fs'.node? l ≠ fs.node? l →
    (∃ text, fs'.node? l = some (.file (.text text))) ∨
      fs.node? l = none ∧ fs'.node? l = some .directory ∧
        ∃ f ∈ sources, ∃ path ∈ f.directory :: parents f.directory, fs'.Leads path l

theorem Changed.refl (sources : List SourceFile) (fs : FileSystem) : Changed sources fs fs :=
  ⟨Written.refl sources fs, fun _ h => absurd rfl h⟩

theorem Changed.trans (h : Changed sources fs fs') (h' : Changed sources fs' fs'') :
    Changed sources fs fs'' := by
  refine ⟨h.toWritten.trans h'.toWritten, fun l hl => ?_⟩
  by_cases hlast : fs''.node? l = fs'.node? l
  · -- The change came first, and has been kept.
    rcases h.others l (hlast ▸ hl) with ⟨text, htext⟩ | ⟨hnone, hmade, f, hf, path, hpath, hleads⟩
    · exact .inl ⟨text, hlast.trans htext⟩
    · exact .inr ⟨hnone, hlast.trans hmade, f, hf, path, hpath, h'.keeps.leads hleads⟩
  · refine (h'.others l hlast).imp_right fun ⟨hnone, hmade⟩ => ⟨?_, hmade⟩
    -- Nothing is ever taken away.
    by_contra hsome
    rcases h.others l (fun heq => hsome (heq ▸ hnone)) with ⟨text, htext⟩ | ⟨-, hdirectory, -⟩
    · rw [hnone] at htext
      cases htext
    · rw [hnone] at hdirectory
      cases hdirectory

theorem node?_put_of_ne {node : Node} {loc l : Location}
    (h : (fs.put loc node).node? l ≠ fs.node? l) :
    l = loc ∧ (fs.put loc node).node? l = some node := by
  rw [node?_put] at h ⊢
  split at h
  · next hroot =>
    subst hroot
    exact absurd rfl h
  · next hroot =>
    split at h
    · next hloc => exact ⟨hloc, by rw [if_neg hroot, if_pos hloc]⟩
    · exact absurd rfl h

theorem changed_makeDirectory {f : SourceFile} (hf : f ∈ sources) {path : String}
    (hpath : path ∈ f.directory :: parents f.directory) (h : fs.makeDirectory path = .ok fs') :
    Changed sources fs fs' := by
  refine ⟨written_makeDirectory h, fun l hl => ?_⟩
  obtain ⟨target, hnone, rfl, hleads⟩ := makeDirectory_eq_ok h
  obtain ⟨rfl, hmade⟩ := node?_put_of_ne hl
  exact .inr ⟨hnone, hmade, f, hf, path, hpath, hleads⟩

theorem changed_writeText {f : SourceFile} (hf : f ∈ sources)
    (h : fs.writeText f.path f.content = .ok fs') : Changed sources fs fs' := by
  refine ⟨written_writeText hf h, fun l hl => ?_⟩
  obtain ⟨target, -, -, rfl⟩ := writeText_eq_ok h
  exact .inl ⟨_, (node?_put_of_ne hl).2⟩

/-- Writing sources changes no more than these may. -/
theorem changed_writeAll (files : List SourceFile) :
    Relates (Changed files) (SourceFile.writeAll files : StateM FileSystem _) :=
  relates_writeAll (Changed.refl files) (fun _ _ _ => Changed.trans) fun _ hf =>
    ⟨fun _ hpath _ _ => changed_makeDirectory hf hpath, fun _ _ => changed_writeText hf⟩

/-- With the default templates a run writes what is planned, and nothing if that fails. -/
theorem GenerationOptions.written_run {o : GenerationOptions} (ho : o.templatesDirectory = none)
    (c : Catalog) (fs : FileSystem) :
    ∃ sources, (sources = [] ∨ ∃ n, o.plan c .default = .ok (n, sources)) ∧
      Written sources fs ((o.run c : StateM FileSystem _).run fs).2 := by
  have hload : (o.loadTemplates : StateM FileSystem _).run fs = (.ok .default, fs) :=
    run_loadTemplates_of_none ho fs
  cases h : o.plan c .default with
  | error e =>
    rw [run_of_plan_eq_error hload h]
    exact ⟨[], .inl rfl, Written.refl [] fs⟩
  | ok planned =>
    obtain ⟨n, files⟩ := planned
    rw [run_of_plan_eq_ok hload h]
    exact ⟨files, .inr ⟨n, rfl⟩, (changed_writeAll files fs).toWritten⟩

/-! ## Writing that succeeds -/

namespace Files.FileSystem

/-- Whether a name is one that a directory takes. -/
structure IsFileName (name : String) : Prop where
  plain : IsPlainName name
  checked : checkPath name = .ok ()
  short : name.utf8ByteSize ≤ maxName

/-- Whether there is a working directory, without another one in it. -/
structure TakesFiles (fs : FileSystem) : Prop where
  directory : fs.node? fs.workingDirectory = some .directory
  files : ∀ name, fs.node? (fs.workingDirectory ++ [name]) ≠ some .directory

theorem TakesFiles.writeText {fs : FileSystem} (h : TakesFiles fs) {name : String}
    (hname : IsFileName name) (text : String) : fs.writeText name text =
      .ok (fs.put (fs.workingDirectory ++ [name]) (.file (.text text))) := by
  obtain ⟨hplain, hchecked, hshort⟩ := hname
  -- The name is the only part of the path, which so leads into the working directory.
  have hparts : parts name = [name] := by
    rw [parts, Text.splitOn_of_not_mem hplain.not_mem, List.map_singleton, String.ofList_toList]
  have hstart : fs.start name = fs.workingDirectory := if_neg hplain.head?_ne
  have hplace : fs.placeOf name = .ok (fs.workingDirectory, name) := by
    simp [placeOf, hchecked, hparts, hplain.ne_empty, hstart, follow, directoryAt, h.directory,
      bind, Except.bind, pure, Except.pure]
  have hentered : enter fs.workingDirectory name = .ok (fs.workingDirectory ++ [name]) := by
    rw [enter, if_neg (by simp [hplain.ne_empty, hplain.2.1]), if_neg hplain.2.2,
      if_neg (Nat.not_lt.2 hshort)]
  have hend : name.toList.getLast? ≠ some '/' := fun hlast =>
    hplain.not_mem (List.mem_of_getLast? hlast)
  have hnamed : (FileSystem.isDotted name || name.toList.getLast? = some '/') = false := by
    simp [FileSystem.isDotted, hplain.ne_empty, hplain.2.1, hplain.2.2, hend]
  rw [FileSystem.writeText, hplace]
  simp only [bind, Except.bind, hnamed, hentered, Bool.false_eq_true, if_false]
  split
  · next hdirectory => exact absurd hdirectory (h.files name)
  · rfl

theorem TakesFiles.put {fs : FileSystem} (h : TakesFiles fs) (name text : String) :
    TakesFiles (fs.put (fs.workingDirectory ++ [name]) (.file (.text text))) := by
  refine ⟨(keeps_put (h.files name)).directories _ h.directory, fun other => ?_⟩
  change (fs.put _ _).node? (fs.workingDirectory ++ [other]) ≠ _
  rw [node?_put, if_neg (by simp)]
  split
  · simp
  · exact h.files other

/-- Files for the working directory can all be written. -/
theorem TakesFiles.exists_writeAll {fs : FileSystem} (h : TakesFiles fs) {files : List SourceFile}
    (hfiles : ∀ f ∈ files, f.directory = "" ∧ IsFileName f.name) :
    ∃ paths, ((SourceFile.writeAll files : StateM FileSystem _).run fs).1 = .ok paths := by
  induction files generalizing fs with
  | nil => exact ⟨[], rfl⟩
  | cons f files ih =>
    obtain ⟨hdirectory, hname⟩ := hfiles f (List.mem_cons_self ..)
    have hpath : f.path = f.name := by
      rw [SourceFile.path, hdirectory, under]
      split
      · rfl
      · simp
    have hmade : (makeDirectories f.directory : StateM FileSystem _).run fs = (.ok (), fs) := by
      rw [hdirectory]
      rfl
    have htext : (FileAccess.writeText f.path f.content : StateM FileSystem _).run fs =
        (.ok (), fs.put (fs.workingDirectory ++ [f.name]) (.file (.text f.content))) := by
      rw [hpath]
      change fs.settle _ = _
      rw [h.writeText hname]
      rfl
    obtain ⟨paths, hpaths⟩ := ih (h.put f.name f.content) fun g hg =>
      hfiles g (List.mem_cons_of_mem _ hg)
    exact ⟨_, congrArg Prod.fst
      (GenerationOptions.run_writeAll_cons (GenerationOptions.run_write hmade htext)
        (Prod.ext hpaths rfl))⟩

theorem takesFiles_empty : TakesFiles FileSystem.empty := by
  refine ⟨by decide, fun name => ?_⟩
  simp [FileSystem.empty, node?, lookup_cons]

end Files.FileSystem
end AssertionWriter
