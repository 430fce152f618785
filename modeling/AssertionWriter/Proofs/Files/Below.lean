/-
  AssertionWriter.Proofs.Files.Below

  Where paths lead that have some more names behind them. Plain names only lead down, so
  such a path leads below the place of the path in front; and the directories it lies in
  are those that the path in front passes through, and others below its place.
-/
import AssertionWriter.Proofs.Files.Following
import AssertionWriter.Proofs.Files.Paths

namespace AssertionWriter

/-- A text is cut at a separator into the pieces before it and those behind it. -/
theorem Text.splitOn_append_cons (sep : Char) (s t : List Char) :
    splitOn sep (s ++ sep :: t) = splitOn sep s ++ splitOn sep t := by
  induction s with
  | nil => simp [splitOn]
  | cons c cs ih =>
    obtain ⟨piece, pieces, hcs⟩ := List.exists_cons_of_ne_nil (splitOn_ne_nil sep cs)
    rw [List.cons_append, splitOn, splitOn, ih, hcs]
    split
    · rfl
    · rfl

namespace Files.FileSystem

variable {fs : FileSystem} {loc l : Location} {path : String}

/-! ## Names in paths -/

/-- The names in a path: its parts without those that lead nowhere. -/
def namesIn (path : String) : List String :=
  (parts path).filter fun part => part ≠ "" && part ≠ "."

/-- Whether a text is the name of a file or directory, and of one in the directory where it is
    looked up. -/
def IsPlainName (s : String) : Prop := isPlainSegment s.toList = true ∧ s ≠ "." ∧ s ≠ ".."

variable {base name : String} {names : List String}

theorem IsPlainName.ne_empty (h : IsPlainName name) : name ≠ "" := by
  rintro rfl
  exact absurd h.1 (by decide)

theorem IsPlainName.not_mem (h : IsPlainName name) : '/' ∉ name.toList := by
  intro hmem
  have hplain := h.1
  simp [isPlainSegment, hmem] at hplain

theorem IsPlainName.head?_ne (h : IsPlainName name) : name.toList.head? ≠ some '/' := fun hhead =>
  h.not_mem (List.mem_of_head? hhead)

theorem IsPlainName.eq_of_enter (h : IsPlainName name) (henter : enter loc name = .ok l) :
    l = loc ++ [name] := by
  rw [enter, if_neg (by simp [h.ne_empty, h.2.1]), if_neg h.2.2] at henter
  split at henter
  · cases henter
  · exact (Except.ok.inj henter).symm

/-- Plain names lead down. -/
theorem eq_append_of_follow (hnames : ∀ n ∈ names, IsPlainName n)
    (h : fs.follow loc names = .ok l) : l = loc ++ names := by
  induction names generalizing loc with
  | nil => simpa using (Except.ok.inj h).symm
  | cons n names ih =>
    rw [← List.singleton_append, follow_append_eq_ok] at h
    obtain ⟨m, hm, h⟩ := h
    have hdown := (hnames n (List.mem_cons_self ..)).eq_of_enter (follow_singleton_eq_ok.1 hm).2
    rw [ih (fun k hk => hnames k (List.mem_cons_of_mem _ hk)) h, hdown, List.append_assoc]
    rfl

theorem mem_parts {path part : String} (h : part ∈ parts path) : '/' ∉ part.toList := by
  obtain ⟨piece, hpiece, rfl⟩ := List.mem_map.1 h
  rw [String.toList_ofList]
  exact fun hmem => (Text.mem_splitOn hpiece '/' hmem).1 rfl

/-! ## Paths below others -/

theorem head?_under (h : IsPlainName name) :
    (under base name).toList.head? = some '/' ↔ base.toList.head? = some '/' := by
  rw [toList_under h.head?_ne, leadOf]
  by_cases hbase : base = ""
  · subst hbase
    simpa using h.head?_ne
  · obtain ⟨c, cs, hcs⟩ := List.exists_cons_of_ne_nil (mt String.toList_eq_nil_iff.1 hbase)
    split
    · simp [hcs]
    · simp [hcs]

theorem start_under (h : IsPlainName name) : fs.start (under base name) = fs.start base := by
  rw [start, start]
  simp only [head?_under h]

/-- The parts of a path with a name behind it; of a slash at the end of the path nothing is left. -/
theorem exists_parts_under (base : String) (h : IsPlainName name) : ∃ front,
    parts (under base name) = front ++ [name] ∧
      (parts base = front ∨ parts base = front ++ [""]) := by
  have hname : Text.splitOn '/' name.toList = [name.toList] := Text.splitOn_of_not_mem h.not_mem
  rw [parts, toList_under h.head?_ne, leadOf]
  split
  · next hlead =>
    rw [Bool.or_eq_true, String.isEmpty_iff, decide_eq_true_eq] at hlead
    rcases hlead with rfl | hslash
    · exact ⟨[], by simp [hname], .inr rfl⟩
    · obtain ⟨front, hfront⟩ := List.getLast?_eq_some_iff.1 hslash
      refine ⟨(Text.splitOn '/' front).map String.ofList, ?_, .inr ?_⟩
      · rw [hfront, List.append_assoc, List.singleton_append, Text.splitOn_append_cons, hname]
        simp
      · rw [parts, hfront, Text.splitOn_append_cons, List.map_append]
        rfl
  · refine ⟨parts base, ?_, .inl rfl⟩
    rw [List.append_assoc, List.singleton_append, Text.splitOn_append_cons, hname]
    simp [parts]

theorem namesIn_under (h : IsPlainName name) :
    namesIn (under base name) = namesIn base ++ [name] := by
  obtain ⟨front, hparts, hbase⟩ := exists_parts_under base h
  rcases hbase with hbase | hbase
  · simp [namesIn, hparts, hbase, h.ne_empty, h.2.1]
  · simp [namesIn, hparts, hbase, h.ne_empty, h.2.1]

/-- A path with a name behind it leads right below the place of the path. -/
theorem Leads.of_under (h : IsPlainName name) (hl : fs.Leads (under base name) l) :
    ∃ loc, fs.Leads base loc ∧ l = loc ++ [name] := by
  obtain ⟨front, hparts, hbase⟩ := exists_parts_under base h
  rw [Leads, hparts, start_under h, follow_append_eq_ok] at hl
  obtain ⟨loc, hfront, hlast⟩ := hl
  obtain ⟨hnode, henter⟩ := follow_singleton_eq_ok.1 hlast
  refine ⟨loc, ?_, h.eq_of_enter henter⟩
  rcases hbase with hbase | hbase
  · rwa [Leads, hbase]
  · rw [Leads, hbase, follow_append_eq_ok]
    exact ⟨loc, hfront, follow_singleton_eq_ok.2 ⟨hnode, rfl⟩⟩

theorem namesIn_foldl_under (hnames : ∀ n ∈ names, IsPlainName n) :
    namesIn (names.foldl under base) = namesIn base ++ names := by
  induction names generalizing base with
  | nil => simp
  | cons n names ih =>
    rw [List.foldl_cons, ih fun k hk => hnames k (List.mem_cons_of_mem _ hk),
      namesIn_under (hnames n (List.mem_cons_self ..)), List.append_assoc]
    rfl

theorem start_foldl_under (hnames : ∀ n ∈ names, IsPlainName n) :
    fs.start (names.foldl under base) = fs.start base := by
  induction names generalizing base with
  | nil => rfl
  | cons n names ih =>
    rw [List.foldl_cons, ih fun k hk => hnames k (List.mem_cons_of_mem _ hk),
      start_under (hnames n (List.mem_cons_self ..))]

/-- The place that the names lead to from where the path leads. -/
def IsBelow (fs : FileSystem) (base : String) (names : List String) (l : Location) : Prop :=
  ∃ loc, fs.Leads base loc ∧ l = loc ++ names

theorem isBelow_of_leads (hnames : ∀ n ∈ names, IsPlainName n)
    (hl : fs.Leads (names.foldl under base) l) : fs.IsBelow base names l := by
  induction names generalizing base with
  | nil => exact ⟨l, hl, by simp⟩
  | cons n names ih =>
    obtain ⟨next, hnext, rfl⟩ := ih (fun k hk => hnames k (List.mem_cons_of_mem _ hk)) hl
    obtain ⟨loc, hloc, rfl⟩ := hnext.of_under (hnames n (List.mem_cons_self ..))
    exact ⟨loc, hloc, by simp⟩

/-! ## The directories that a path passes through -/

/-- A place that some of the names in a path lead to, from the first on. -/
def Passes (fs : FileSystem) (path : String) (l : Location) : Prop :=
  ∃ front, front <+: namesIn path ∧ fs.follow (fs.start path) front = .ok l

/-- Names with slashes between them are the parts of the text. -/
theorem parts_intercalate (hne : names ≠ []) (hnames : ∀ n ∈ names, '/' ∉ n.toList) :
    parts ("/".intercalate names) = names := by
  have hslash : ∀ piece ∈ names.map String.toList, '/' ∉ piece := by
    intro piece hpiece
    obtain ⟨n, hn, rfl⟩ := List.mem_map.1 hpiece
    exact hnames n hn
  have hsep : "/".toList = ['/'] := rfl
  rw [parts, String.toList_intercalate, hsep, Text.splitOn_intercalate (by simpa using hne) hslash,
    List.map_map]
  exact (List.map_congr_left fun n _ => String.ofList_toList).trans (List.map_id _)

/-- A slash in front leads to the root, from where the parts are followed. -/
theorem leads_slash_iff {text : String} :
    fs.Leads ("/" ++ text) l ↔ fs.follow [] (parts text) = .ok l := by
  have hparts : parts ("/" ++ text) = "" :: parts text := by
    rw [parts, String.toList_append]
    rfl
  have hstart : fs.start ("/" ++ text) = [] := by
    rw [start, String.toList_append]
    rfl
  rw [Leads, hparts, hstart, ← List.singleton_append, follow_append_eq_ok]
  constructor
  · rintro ⟨m, hm, h⟩
    obtain rfl := Except.ok.inj (follow_singleton_eq_ok.1 hm).2
    exact h
  · exact fun h => ⟨[], rfl, h⟩

/-- The paths of the directories that a path lies in lead to places that it passes through. -/
theorem Leads.passes {parent : String} (h : parent ∈ parents path) (hl : fs.Leads parent l) :
    fs.Passes path l := by
  obtain ⟨hmem, hne⟩ := List.mem_filter.1 h
  obtain ⟨n, -, rfl⟩ := List.mem_map.1 hmem
  refine ⟨(namesIn path).take n, List.take_prefix n _, ?_⟩
  change fs.Leads (_ ++ "/".intercalate ((namesIn path).take n)) l at hl
  change (!(_ ++ "/".intercalate ((namesIn path).take n)).isEmpty) = true at hne
  have hslash : ∀ part ∈ (namesIn path).take n, '/' ∉ part.toList := fun part hpart =>
    mem_parts (List.mem_filter.1 (List.mem_of_mem_take hpart)).1
  have hempty : "" ∉ (namesIn path).take n := fun hmem =>
    absurd (List.mem_filter.1 (List.mem_of_mem_take hmem)).2 (by decide)
  generalize (namesIn path).take n = front at *
  by_cases hroot : path.toList.head? = some '/'
  · rw [if_pos hroot, leads_slash_iff] at hl
    rw [start, if_pos hroot]
    by_cases hfront : front = []
    · -- Only the root is left.
      subst hfront
      obtain rfl := Except.ok.inj hl
      rfl
    · rwa [parts_intercalate hfront hslash] at hl
  · rw [if_neg hroot, String.empty_append] at hl hne
    have hfront : front ≠ [] := by
      rintro rfl
      exact absurd hne (by decide)
    have hhead : ("/".intercalate front).toList.head? ≠ some '/' := by
      -- A slash in front would make the first name empty.
      intro hhead
      obtain ⟨rest, hrest⟩ := List.head?_eq_some_iff.1 hhead
      have hparts := parts_intercalate hfront hslash
      rw [parts, hrest, ← List.nil_append ('/' :: rest), Text.splitOn_append_cons] at hparts
      exact hempty (hparts ▸ List.mem_cons_self ..)
    rw [Leads, parts_intercalate hfront hslash, start, if_neg hhead] at hl
    rwa [start, if_neg hroot]

/-- What follows from a directory ends in one only if it starts in one. -/
theorem isDirectory_of_follow (hl : fs.node? l = some .directory)
    (h : fs.follow loc names = .ok l) : fs.node? loc = some .directory := by
  cases names with
  | nil => rwa [Except.ok.inj h]
  | cons n names =>
    obtain ⟨dir, hdir, -⟩ := bind_eq_ok_iff.1 h
    exact (directoryAt_eq_ok.1 hdir).1

/-- The names in a path lead where the path leads. -/
theorem leads_of_follow_namesIn (hl : fs.node? l = some .directory)
    (h : fs.follow (fs.start path) (namesIn path) = .ok l) : fs.Leads path l := by
  rw [Leads]
  rw [namesIn] at h
  generalize fs.start path = loc, parts path = ps at h ⊢
  induction ps generalizing loc with
  | nil => exact h
  | cons part rest ih =>
    have hloc := isDirectory_of_follow hl h
    rw [← List.singleton_append, follow_append_eq_ok]
    by_cases hnamed : part ≠ "" ∧ part ≠ "."
    · rw [List.filter_cons_of_pos (by simpa using hnamed), ← List.singleton_append,
        follow_append_eq_ok] at h
      obtain ⟨m, hm, h⟩ := h
      exact ⟨m, hm, ih m h⟩
    · -- The other parts stay where they are.
      rw [List.filter_cons_of_neg (by simpa using hnamed)] at h
      have hstays : (part = "" || part = ".") = true := by
        simpa [Decidable.or_iff_not_imp_left] using hnamed
      exact ⟨loc, follow_singleton_eq_ok.2 ⟨hloc, if_pos hstays⟩, ih loc h⟩

/-- A directory for names below a path, and each of those it lies in, is a place that the path
    passes through or one below it. -/
theorem passes_or_isBelow (hnames : ∀ n ∈ names, IsPlainName n) {made : String}
    (hmade : made ∈ names.foldl under base :: parents (names.foldl under base))
    (hl : fs.Leads made l) (hnode : fs.node? l = some .directory) :
    fs.Passes base l ∨ ∃ front, front <+: names ∧ fs.IsBelow base front l := by
  rcases List.mem_cons.1 hmade with rfl | hparent
  · exact .inr ⟨names, List.prefix_rfl, isBelow_of_leads hnames hl⟩
  · obtain ⟨front, hfront, hfollow⟩ := hl.passes hparent
    rw [namesIn_foldl_under hnames] at hfront
    rw [start_foldl_under hnames] at hfollow
    rcases List.prefix_or_prefix_of_prefix hfront (List.prefix_append (namesIn base) names) with
      hshort | ⟨below, rfl⟩
    · exact .inl ⟨front, hshort, hfollow⟩
    · have hbelow := (List.prefix_append_right_inj _).1 hfront
      obtain ⟨loc, hloc, hdown⟩ := follow_append_eq_ok.1 hfollow
      refine .inr ⟨below, hbelow, loc, ?_, ?_⟩
      · exact leads_of_follow_namesIn (isDirectory_of_follow hnode hdown) hloc
      · exact eq_append_of_follow (fun n hn => hnames n (hbelow.subset hn)) hdown

end Files.FileSystem
end AssertionWriter
