/-
  AssertionWriter.Proofs.AssertionClass.ImportLines

  What a source imports, as it is read back from its lines. The import lines of a class are
  those that were put into the hole for them: neither what the class says of itself nor the
  methods of its properties have a line that starts like one.
-/
import AssertionWriter.Proofs.AssertionClass.Sources

namespace AssertionWriter

namespace Template
open Text QualifiedName

/-! ## Reading -/

/-- The name that a line imports. -/
def imported? (line : List Char) : Option String :=
  (after? "import ".toList line).bind fun rest =>
    (after? ";\n".toList.reverse rest.reverse).map fun name => String.ofList name.reverse

/-- The names that the lines of a text import, in order. -/
def importsIn (text : String) : List String := (linesWithEnds text.toList).filterMap imported?

theorem imported?_eq_none {line : List Char} (h : line.head? ≠ some 'i') :
    imported? line = none := by
  have hlead : after? "import ".toList line = none := after?_eq_none_of_head?_ne h
  rw [imported?, hlead]
  rfl

theorem imported?_eq_some (name : String) :
    imported? ("import " ++ name ++ ";\n").toList = some name := by
  have hlead : ∀ s, after? "import ".toList ("import ".toList ++ s) = some s :=
    fun s => after?_eq_some_iff.2 rfl
  have hend : (name.toList ++ ";\n".toList).reverse =
      ";\n".toList.reverse ++ name.toList.reverse := List.reverse_append
  rw [imported?, String.append_assoc, String.toList_append, hlead, Option.bind_some,
    String.toList_append, hend, after?_eq_some_iff.2 rfl, Option.map_some, List.reverse_reverse,
    String.ofList_toList]

/-- Lines of imports are read back, whatever stands behind them. -/
theorem filterMap_imported?_join {names : List String} (h : ∀ name ∈ names, Inline name)
    (s : List Char) :
    (linesWithEnds ((String.join (names.map fun name => "import " ++ name ++ ";\n")).toList ++
      s)).filterMap imported? = names ++ (linesWithEnds s).filterMap imported? := by
  induction names with
  | nil => rfl
  | cons name names ih =>
    have hend : ";\n".toList = [';', '\n'] := rfl
    have hsingle : '\n' ∉ "import ".toList ++ name.toList ++ [';'] := by
      simp only [List.mem_append, not_or]
      exact ⟨⟨by decide, (h name (by simp)).not_mem.2⟩, by decide⟩
    have hline := linesWithEnds_line hsingle
      ((String.join (names.map fun name => "import " ++ name ++ ";\n")).toList ++ s)
    have hread := imported?_eq_some name
    rw [String.toList_append, String.toList_append, hend] at hread
    rw [List.map_cons, String.join_cons, String.toList_append, String.toList_append,
      String.toList_append, hend]
    simp only [List.append_assoc, List.cons_append, List.nil_append] at hline hread ⊢
    rw [hline, List.filterMap_cons_some hread, ih fun n hn => h n (List.mem_cons_of_mem _ hn)]

/-- Only the empty line behind the imports depends on whether there are any. -/
theorem filterMap_imported?_render {i : Imports} (h : i.AllInline) (s : List Char) :
    (linesWithEnds (i.render.toList ++ s)).filterMap imported? =
      i.toList ++ (linesWithEnds s).filterMap imported? := by
  rw [Imports.render]
  split
  · next hempty =>
    rw [List.isEmpty_iff.1 hempty]
    rfl
  · have hnil : '\n' ∉ ([] : List Char) := List.not_mem_nil
    have hblank : linesWithEnds ("\n".toList ++ s) = ['\n'] :: linesWithEnds s :=
      linesWithEnds_line hnil s
    rw [String.toList_append, List.append_assoc, filterMap_imported?_join h, hblank,
      List.filterMap_cons_none (imported?_eq_none (by decide))]

/-! ## Sources -/

/-- The first line of a class behind the declaration of its package. -/
def ClassLayout.importLine : Line := [.hole .imports, "/**"]

/-- A source imports what was put into its first line, if no other line starts like an import. -/
theorem Rendering.IsSource.importsIn_eq {r : Rendering} {package text : String}
    (h : r.IsSource package text) {i : Imports} (hi : i.AllInline)
    (hvalue : r.value? .imports = some i.render) {lines : Layout}
    (hinner : r.frame.inner = ClassLayout.importLine :: lines)
    (hsealed : ∀ line ∈ Layout.fillBy r.value? (lines ++ r.rest),
      isSealed '\n' 'i' true line = true) : importsIn text = i.toList := by
  have hopening : "/**\n".toList = "/**".toList ++ ['\n'] := by decide
  have htext : text.toList = heading package ++ (i.render.toList ++ ("/**".toList ++
      '\n' :: joined (Layout.fillBy r.value? (lines ++ r.rest)).segments)) := by
    have hfill : Layout.fillBy r.value? (r.frame.inner ++ r.rest) =
        [.text i.render, .text "/**"] :: Layout.fillBy r.value? (lines ++ r.rest) := by
      have hhole : Segment.fillBy r.value? (.hole .imports) = .text i.render := by
        rw [Segment.fillBy, hvalue, Option.elim_some]
      rw [hinner, ← hhole]
      rfl
    rw [h.toList_eq_heading, hfill, Layout.segments_cons]
    simp [Segment.toText]
  -- Behind the imports no line starts with their letter, and so none is one.
  have hrest : (linesWithEnds (joined (Layout.fillBy r.value?
      (lines ++ r.rest)).segments)).filterMap imported? = [] := by
    have hapart := (h.isApart_of_isSealed (by decide) (fun line hline => by
      rw [hinner]
      exact List.mem_cons_of_mem _ hline) hsealed).1
    exact List.filterMap_eq_nil_iff.2 fun line hline =>
      imported?_eq_none (head?_ne_of_mem_linesWithEnds hapart hline)
  have hheading : (linesWithEnds (heading package)).filterMap imported? = [] := by
    rw [linesWithEnds_heading h.inline]
    split
    · rfl
    · rw [List.append_assoc]
      rfl
  have hdoc : linesWithEnds ("/**".toList ++
      '\n' :: joined (Layout.fillBy r.value? (lines ++ r.rest)).segments) =
        ("/**".toList ++ ['\n']) ::
          linesWithEnds (joined (Layout.fillBy r.value? (lines ++ r.rest)).segments) :=
    linesWithEnds_line (by decide) _
  rw [importsIn, htext, linesWithEnds_append (isBehind_heading package), List.filterMap_append,
    hheading, List.nil_append, filterMap_imported?_render hi, hdoc,
    List.filterMap_cons_none (imported?_eq_none (by decide)), hrest, List.append_nil]

/-! ## Frames -/

/-- The frames of assertion classes. -/
def ClassLayout.all : List Layout := [flat, comparable, concrete, inheritable]

set_option maxRecDepth 4000 in
/-- Behind its first line no frame has a line that can start with the letter that imports start
    with. -/
theorem ClassLayout.isSealed_import {l : Layout} (h : l ∈ all) :
    ∀ line ∈ l.drop 3, isSealed '\n' 'i' true line = true := by
  have hspelled : ∃ lines, SpelledLayout (l.drop 3) lines ∧
      lines.all (Piece.isSealed '\n' 'i' true) = true := by
    simp only [all, List.mem_cons, List.not_mem_nil, or_false] at h
    rcases h with rfl | rfl | rfl | rfl
    all_goals
      apply Exists.intro
      apply And.intro
      · repeat constructor
      · decide
  obtain ⟨lines, hl, hall⟩ := hspelled
  intro line hline
  obtain ⟨ps, hps, hspelled⟩ := hl.exists_of_mem hline
  exact (hspelled.isSealed_eq _).trans (List.all_eq_true.1 hall ps hps)

/-- All frames start alike, and have one hole for imports. -/
theorem ClassLayout.drop_two_eq {l : Layout} (h : l ∈ all) :
    l.drop 2 = importLine :: l.drop 3 ∧ .imports ∉ holesOf (Layout.segments (l.drop 3)) := by
  simp only [all, List.mem_cons, List.not_mem_nil, or_false] at h
  rcases h with rfl | rfl | rfl | rfl
  all_goals exact ⟨rfl, by decide⟩

end Template

namespace ClassWriter
open Template Text QualifiedName

variable {w : ClassWriter} {s : Surface} {r : Role} {name : String} {entries : List (Hole × String)}
  {properties : List Property}

/-! ## Classes -/

theorem isSealed_import_restLines {package : String} (hp : ∀ p ∈ properties, p.IsInline) :
    ∀ line ∈ restLines s package properties, isSealed '\n' 'i' true line = true := by
  intro line hline
  rcases List.mem_append.1 hline with hline | hline
  · obtain ⟨p, hmem, hline⟩ := List.mem_flatMap.1 hline
    exact (hp p hmem).isSealed_import_methodLines s package line hline
  · rw [List.mem_singleton.1 hline]
    decide

theorem layoutFor_mem_all (hr : r ∈ Role.ofClass) (s : Surface) :
    r.layoutFor s ∈ ClassLayout.all := by
  rw [Role.layoutFor]
  split
  · simp [ClassLayout.all]
  · simp only [Role.ofClass, List.mem_cons, List.not_mem_nil, or_false] at hr
    rcases hr with rfl | rfl | rfl <;> simp [ClassLayout.all, Role.layout]

/-- The values for the holes of a class have no line feeds. -/
theorem IsDefault.areApart_classFilling (hw : w.IsDefault) (hs : s.IsInline)
    (he : AreEntries r name entries) (bad : Char) :
    AreApart '\n' bad (w.classFilling s entries).get? := by
  intro k v hv
  obtain ⟨hblock, hinline⟩ :=
    hw.inline_classFilling hs he (k, v) (Filling.get?_eq_some_iff.1 hv)
  rw [hblock]
  exact isApart_false_of_not_mem hinline.not_mem.2

/-- A class has no value for a block of lines, so none for its imports. -/
theorem IsDefault.get?_imports (hw : w.IsDefault) (hs : s.IsInline)
    (he : AreEntries r name entries) : (w.classFilling s entries).get? .imports = none := by
  rw [Option.eq_none_iff_forall_ne_some]
  intro v hv
  have hblock : Hole.imports.isBlock = false :=
    (hw.inline_classFilling hs he (.imports, v) (Filling.get?_eq_some_iff.1 hv)).1
  exact absurd hblock (by decide)

theorem value?_rendering_of_ne {f : Frame} {imports : String} {k : Hole} (h : k ≠ .imports) :
    (w.rendering s entries f properties imports).value? k = (w.classFilling s entries).get? k := by
  show ((w.classFilling s entries).get? k).or _ = _
  rw [Filling.get?_ofList_eq_none_iff.2 (by simpa using h), Option.or_none]

/-- The import lines of a class are those that its text asked for. -/
theorem IsDefault.importsIn_complete (hw : w.IsDefault) (hs : s.IsInline)
    (hr : r ∈ Role.ofClass) (hp : ∀ p ∈ properties, p.IsInline) (he : AreEntries r name entries)
    (hname : name ≠ "") (hchars : ∀ c ∈ name.toList, isNameChar c = true)
    {parentImport : Option String} (hparent : ∀ name ∈ parentImport, Inline name) {body : String}
    (h : w.body s r properties = .ok body) :
    importsIn (w.complete s entries parentImport body) =
      (w.importsOf s parentImport ((w.classFilling s entries).fill body)).toList := by
  obtain ⟨body', f, hbody, hlayout, -, -, hsource⟩ :=
    hw.exists_rendering hs hr hp he hname hchars hparent
  obtain rfl := Except.ok.inj (h.symm.trans hbody)
  have hinline := allInline_importsOf hs hparent (w := w) ((w.classFilling s entries).fill body)
  generalize w.importsOf s parentImport _ = i at hsource hinline ⊢
  have hall : f.layout ∈ ClassLayout.all := hlayout ▸ layoutFor_mem_all hr s
  obtain ⟨hinner, hholes⟩ := ClassLayout.drop_two_eq hall
  have hvalue : (w.rendering s entries f properties i.render).value? .imports = some i.render := by
    show ((w.classFilling s entries).get? .imports).or _ = _
    rw [hw.get?_imports hs he, Option.none_or]
    rfl
  refine hsource.importsIn_eq hinline hvalue hinner fun line hline => ?_
  -- No line but the first has the hole for the imports, and no other value is more than a line.
  have hclass : Layout.fillBy (w.rendering s entries f properties i.render).value?
        (f.layout.drop 3 ++ restLines s (s.targetPackage w.package) properties) =
      Layout.fillBy (w.classFilling s entries).get?
        (f.layout.drop 3 ++ restLines s (s.targetPackage w.package) properties) := by
    refine Layout.fillBy_congr fun k hk => value?_rendering_of_ne ?_
    rintro rfl
    rw [Layout.segments_append, holesOf_append, List.mem_append] at hk
    exact hk.elim hholes fun hk => absurd (mem_holesOf_restLines hk) (by decide)
  obtain ⟨line, hmem, rfl⟩ := List.mem_map.1 (hclass ▸ hline)
  refine isSealed_fillBy (hw.areApart_classFilling hs he 'i') ?_
  exact (List.mem_append.1 hmem).elim (ClassLayout.isSealed_import hall line)
    (isSealed_import_restLines hp line)

end ClassWriter
end AssertionWriter
