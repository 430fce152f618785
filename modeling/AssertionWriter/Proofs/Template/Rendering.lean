/-
  AssertionWriter.Proofs.Template.Rendering

  What a source is: a frame with lines behind it, and a value for every hole. No token is
  left in such a text; it declares its package, if it has one, in its first line, and one
  class that is not indented.
-/
import AssertionWriter.Proofs.Naming.Inline
import AssertionWriter.Proofs.Template.Frames

namespace AssertionWriter.Template
open Text QualifiedName

/-! ## Filled lines -/

/-- A template with its holes filled, where there are values for them. -/
def Layout.fillBy (value? : Hole → Option String) (l : Layout) : Layout :=
  l.map (·.map (Segment.fillBy value?))

theorem Layout.segments_fillBy (value? : Hole → Option String) (l : Layout) :
    (l.fillBy value?).segments = l.segments.map (Segment.fillBy value?) := by
  induction l with
  | nil => rfl
  | cons line l ih =>
    rw [fillBy, List.map_cons, segments_cons, segments_cons, List.map_append, List.map_cons, ← ih]
    rfl

theorem Layout.fillBy_append (value? : Hole → Option String) (l l' : Layout) :
    (Layout.fillBy value? (l ++ l')) = l.fillBy value? ++ l'.fillBy value? := List.map_append

theorem Layout.fillBy_fillBy (value? value'? : Hole → Option String) (l : Layout) :
    (l.fillBy value?).fillBy value'? = l.fillBy fun h => (value? h).or (value'? h) := by
  rw [fillBy, fillBy, fillBy, List.map_map]
  refine List.map_congr_left fun line _ => ?_
  rw [Function.comp_apply, List.map_map]
  exact List.map_congr_left fun g _ => Template.fillBy_fillBy value? value'? g

/-- Only the values for the holes of a template matter. -/
theorem Layout.fillBy_congr {value? value'? : Hole → Option String} {l : Layout}
    (h : ∀ k ∈ holesOf l.segments, value? k = value'? k) : l.fillBy value? = l.fillBy value'? := by
  refine List.map_congr_left fun line hline => List.map_congr_left fun g hg => ?_
  cases g with
  | text s => rfl
  | hole k =>
    rw [Segment.fillBy, Segment.fillBy,
      h k (Layout.mem_holesOf_segments.2 ⟨line, hline, mem_holesOf.2 hg⟩)]

/-- Whether a value can be put into a hole of a sealed line. -/
def Fits (h : Hole) (v : String) : Prop :=
  isApart '$' '\x7b' h.isBlock v.toList = true ∧ isApart '\n' 'p' h.isBlock v.toList = true

theorem Fits.of_inline {h : Hole} {v : String} (hh : h.isBlock = false) (hv : Inline v) :
    Fits h v := by
  rw [Fits, hh]
  exact ⟨isApart_of_not_mem hv.not_mem.1 _, isApart_false_of_not_mem hv.not_mem.2⟩

/-- Texts without a mark make up a text without it. -/
theorem isApart_flatMap_of_not_mem {a b : Char} {ss : List String}
    (hs : ∀ s ∈ ss, b ∉ s.toList) (behind : Bool) :
    isApart a b behind (ss.flatMap String.toList) = true := by
  refine isApart_of_not_mem ?_ behind
  rw [List.mem_flatMap]
  rintro ⟨s, hmem, hc⟩
  exact hs s hmem hc

/-- In lines that start with a blank, no other character stands behind a line feed. -/
theorem isApart_flatMap_of_blank {bad : Char} (hbad : bad ≠ ' ') {ss : List String}
    (hs : ∀ s ∈ ss, ∃ t, s = "\n " ++ t ∧ Inline t) :
    isApart '\n' bad false (ss.flatMap String.toList) = true := by
  induction ss with
  | nil => rfl
  | cons s ss ih =>
    obtain ⟨t, rfl, ht⟩ := hs s (by simp)
    have hblank : "\n ".toList = ['\n', ' '] := rfl
    have hlead : isApart '\n' bad false ['\n', ' '] = true := by simp [isApart, Ne.symm hbad]
    have hfirst : isApart '\n' bad false ("\n " ++ t).toList = true := by
      rw [String.toList_append, hblank, isApart_append, hlead]
      exact isApart_false_of_not_mem ht.not_mem.2
    -- No line feed stands at the end of a line, so the next one may come right behind it.
    have hend : isBehind '\n' false ("\n " ++ t).toList = false := by
      rw [String.toList_append, hblank, isBehind_append]
      exact isBehind_false_of_not_mem ht.not_mem.2
    rw [List.flatMap_cons, isApart_append, hfirst, hend,
      ih fun s hmem => hs s (List.mem_cons_of_mem _ hmem)]
    rfl

/-- Lines that start with a blank, each behind a line feed. -/
theorem Fits.join {h : Hole} (hh : h.isBlock = false) {ss : List String}
    (hs : ∀ s ∈ ss, ∃ t, s = "\n " ++ t ∧ Inline t) : Fits h (String.join ss) := by
  have hbrace : ∀ s ∈ ss, '\x7b' ∉ s.toList := by
    intro s hmem
    obtain ⟨t, rfl, ht⟩ := hs s hmem
    rw [String.toList_append, List.mem_append, not_or]
    exact ⟨by decide, ht.not_mem.1⟩
  rw [Fits, hh, String.toList_join]
  exact ⟨isApart_flatMap_of_not_mem hbrace false, isApart_flatMap_of_blank (by decide) hs⟩

/-- Lines for a block, none of which starts with a `p`. -/
theorem Fits.lines {h : Hole} {ss : List String}
    (hs : ∀ s ∈ ss, ∃ t, s = t ++ "\n" ∧ Inline t ∧ t.toList.head? ≠ some 'p') :
    Fits h (String.join ss) := by
  have hfeed : "\n".toList = ['\n'] := rfl
  have hbrace : ∀ s ∈ ss, '\x7b' ∉ s.toList := by
    intro s hmem
    obtain ⟨t, rfl, ht, -⟩ := hs s hmem
    rw [String.toList_append, hfeed]
    simp [ht.not_mem.1]
  rw [Fits, String.toList_join]
  refine ⟨isApart_flatMap_of_not_mem hbrace _, isApart_of_isApart_true ?_ _⟩
  clear hbrace
  induction ss with
  | nil => rfl
  | cons s ss ih =>
    obtain ⟨t, rfl, ht, hhead⟩ := hs s (by simp)
    have hline : Text.isApart '\n' 'p' true t.toList = true :=
      isApart_true_of_head?_ne (isApart_false_of_not_mem ht.not_mem.2) hhead
    have hrest := ih fun s hmem => hs s (List.mem_cons_of_mem _ hmem)
    rw [List.flatMap_cons, String.toList_append, hfeed, isApart_append, isApart_append, hline,
      isApart_of_isApart_true hrest]
    simp [Text.isApart]

/-- Values that fit into their holes. -/
def Filling.Fits (f : Filling) : Prop := ∀ e ∈ f.entries, Template.Fits e.1 e.2

theorem Filling.Fits.get? {f : Filling} (hf : f.Fits) :
    ∀ h v, f.get? h = some v → Template.Fits h v :=
  fun h v hv => hf (h, v) (get?_eq_some_iff.1 hv)

/-- Filling a text of sealed lines fills its lines. -/
theorem Filling.Fits.toList_fill {f : Filling} (hf : f.Fits) {l : Layout}
    (hl : ∀ line ∈ l, isSealed '$' '\x7b' false line = true) {text : String}
    (htext : text.toList = joined l.segments) :
    (f.fill text).toList = joined (l.fillBy f.get?).segments := by
  have hsealed := (Layout.isSealed_segments (by decide) rfl hl).1
  rw [Layout.segments_fillBy]
  exact Filling.toList_fill (fun e he => (hf e he).1) hsealed htext

/-- Filling a text with two fillings takes the values of the first one first. -/
theorem Filling.Fits.toList_fill_fill {f g : Filling} (hf : f.Fits) (hg : g.Fits) {l : Layout}
    (hl : ∀ line ∈ l, isSealed '$' '\x7b' false line = true) {text : String}
    (htext : text.toList = joined l.segments) :
    (g.fill (f.fill text)).toList =
      joined (l.fillBy fun h => (f.get? h).or (g.get? h)).segments := by
  have hfilled : ∀ line ∈ l.fillBy f.get?, isSealed '$' '\x7b' false line = true := by
    intro line hline
    obtain ⟨line, hmem, rfl⟩ := List.mem_map.1 hline
    exact isSealed_fillBy (fun h v hv => (hf.get? h v hv).1) (hl line hmem)
  rw [hg.toList_fill hfilled (hf.toList_fill hl htext), Layout.fillBy_fillBy]

theorem Line.IsSealed.fillBy {line : Line} (h : line.IsSealed) {value? : Hole → Option String}
    (hv : ∀ h v, value? h = some v → Fits h v) :
    Line.IsSealed (line.map (Segment.fillBy value?)) :=
  ⟨isSealed_fillBy (fun h v hh => (hv h v hh).1) h.sealed,
    isSealed_fillBy (fun h v hh => (hv h v hh).2) h.unmarked⟩

theorem Layout.isSealed_of_mem_fillBy {l : Layout} (h : ∀ line ∈ l, line.IsSealed)
    {value? : Hole → Option String} (hv : ∀ h v, value? h = some v → Fits h v) :
    ∀ line ∈ l.fillBy value?, line.IsSealed := by
  intro line hline
  obtain ⟨line, hmem, rfl⟩ := List.mem_map.1 hline
  exact (h line hmem).fillBy hv

/-! ## Tokens -/

/-- Without a brace behind a dollar sign there are no tokens. -/
theorem tokensFrom_none {s : List Char} (h : isApart '$' '\x7b' false s = true) :
    tokensFrom none s = [] := by
  induction s with
  | nil => rfl
  | cons c cs ih =>
    have hcs : isApart '$' '\x7b' false cs = true := by
      rw [isApart, Bool.and_eq_true] at h
      cases hc : decide (c = '$') with
      | false => rw [hc] at h; exact h.2
      | true => rw [hc] at h; exact isApart_of_isApart_true h.2 false
    rw [tokensFrom.eq_def]
    -- A token would start with a dollar sign and a brace behind it.
    split
    · next r heq =>
      obtain ⟨rfl, rfl⟩ := List.cons.inj heq
      simp [isApart] at h
    · next r hr heq =>
      obtain ⟨-, rfl⟩ := List.cons.inj heq
      exact ih hcs
    · rfl
    all_goals exact absurd ‹none = some _› (by simp)

theorem tokensIn_eq_nil {text : String} (h : isApart '$' '\x7b' false text.toList = true) :
    tokensIn text = [] := by
  rw [tokensIn, tokensFrom_none h, List.map_nil]

/-! ## Classes that are not indented -/

/-- Nothing comes behind a word that a text does not start with. -/
theorem after?_eq_none_of_head?_ne {c : Char} {word s : List Char} (h : s.head? ≠ some c) :
    after? (c :: word) s = none := by
  cases s with
  | nil => rfl
  | cons d s =>
    have hc : c ≠ d := fun hc => h (by rw [hc]; rfl)
    exact if_neg hc

/-- The name of the class that a line declares, if it is not indented. -/
def topLevelClass? (line : List Char) : Option String :=
  (after? "public ".toList line).bind fun rest =>
    (after? "class ".toList ((after? "abstract ".toList rest).getD rest)).bind fun rest =>
      match rest.takeWhile isNameChar with
      | [] => none
      | name => some (String.ofList name)

/-- The names of the classes that a text declares at its top level, in order. -/
def topLevelClasses (text : String) : List String :=
  (linesWithEnds text.toList).filterMap topLevelClass?

theorem topLevelClass?_eq_none {line : List Char} (h : line.head? ≠ some 'p') :
    topLevelClass? line = none := by
  have hlead : after? "public ".toList line = none := after?_eq_none_of_head?_ne h
  rw [topLevelClass?, hlead]
  rfl

/-- A line that declares a class of a name. -/
theorem topLevelClass?_eq_some {rest name : List Char} {lead : String}
    (hlead : lead = "public class " ∨ lead = "public abstract class ")
    (hname : rest.takeWhile isNameChar = name) (hne : name ≠ []) :
    topLevelClass? (lead.toList ++ rest) = some (String.ofList name) := by
  have hmatch : (match rest.takeWhile isNameChar with
      | [] => none
      | name => some (String.ofList name)) = some (String.ofList name) := by
    rw [hname]
    cases name with
    | nil => exact absurd rfl hne
    | cons c cs => rfl
  have hpublic : ∀ s, after? "public ".toList ("public ".toList ++ s) = some s :=
    fun s => after?_eq_some_iff.2 rfl
  have hclass : after? "class ".toList ("class ".toList ++ rest) = some rest :=
    after?_eq_some_iff.2 rfl
  rcases hlead with rfl | rfl
  · have hsplit : "public class ".toList = "public ".toList ++ "class ".toList := by decide
    have hnone : after? "abstract ".toList ("class ".toList ++ rest) = none := rfl
    rw [topLevelClass?, hsplit, List.append_assoc, hpublic, Option.bind_some, hnone,
      Option.getD_none, hclass, Option.bind_some, hmatch]
  · have hsplit : "public abstract class ".toList =
        "public ".toList ++ ("abstract ".toList ++ "class ".toList) := by decide
    have hsome : after? "abstract ".toList ("abstract ".toList ++ ("class ".toList ++ rest)) =
        some ("class ".toList ++ rest) := after?_eq_some_iff.2 rfl
    rw [topLevelClass?, hsplit, List.append_assoc, List.append_assoc, hpublic, Option.bind_some,
      hsome, Option.getD_some, hclass, Option.bind_some, hmatch]

/-! ## Sources -/

/-- A frame, the lines behind it, and values for holes. -/
structure Rendering where
  frame : Frame
  rest : Layout
  value? : Hole → Option String

namespace Rendering

/-- The lines of the template, in a package. -/
def lines (r : Rendering) (package : String) : Layout :=
  (if package.isEmpty then r.frame.inner else r.frame.layout) ++ r.rest

/-- The name of the class. -/
def className (r : Rendering) : String :=
  String.ofList ((joined [r.frame.name.fillBy r.value?]).takeWhile isNameChar)

/-- A text that is the template with all holes filled. -/
structure IsSource (r : Rendering) (package text : String) : Prop where
  frame : r.frame.WellFormed
  rest : ∀ line ∈ r.rest, line.IsSealed
  fits : ∀ h v, r.value? h = some v → Fits h v
  full : ∀ h ∈ holesOf (r.lines package).segments, r.value? h ≠ none
  declared : r.value? .package = some package
  inline : Inline package
  named : (joined [r.frame.name.fillBy r.value?]).head?.any isNameChar = true
  toList_eq : text.toList = joined ((r.lines package).fillBy r.value?).segments

variable {r : Rendering} {package text : String}

/-- No line can make a token arise. -/
theorem isSealed_of_mem_lines (hf : r.frame.WellFormed) (hrest : ∀ line ∈ r.rest, line.IsSealed) :
    ∀ line ∈ r.lines package, isSealed '$' '\x7b' false line = true := by
  intro line hline
  rcases List.mem_append.1 hline with hline | hline
  · exact hf.isSealed_of_mem line hline
  · exact (hrest line hline).sealed

/-- The holes of the lines are those of the frame and those behind it. -/
theorem mem_holesOf_lines {h : Hole} (hh : h ∈ holesOf (r.lines package).segments) :
    h ∈ holesOf r.frame.layout.segments ∨ h ∈ holesOf r.rest.segments := by
  rw [lines, Layout.segments_append, holesOf_append] at hh
  refine (List.mem_append.1 hh).imp_left fun hh => ?_
  split at hh
  · rw [Frame.layout, Layout.segments_cons, Layout.segments_cons, mem_holesOf]
    simp [mem_holesOf.1 hh]
  · exact hh

/-- No token is left in a source. -/
theorem IsSource.isApart (h : r.IsSource package text) :
    Text.isApart '$' '\x7b' false text.toList = true := by
  rw [h.toList_eq, Layout.segments_fillBy]
  have hlines : ∀ line ∈ r.lines package, isSealed '$' '\x7b' false line = true :=
    isSealed_of_mem_lines h.frame h.rest
  have hsealed := (Layout.isSealed_segments (by decide) rfl hlines).1
  refine isApart_joined (exists_text_of_holesOf fun k hk => ?_)
    (isSealed_fillBy (fun k v hv => (h.fits k v hv).1) hsealed)
  obtain ⟨hmem, hnone⟩ := mem_holesOf_fillBy.1 hk
  exact h.full k hmem hnone

theorem IsSource.not_infix (h : r.IsSource package text) : ¬['$', '\x7b'] <:+: text.toList :=
  not_infix_of_isApart h.isApart

/-! ## The package and the class of a source -/

/-- What stands in front of the lines for the default package. -/
def heading (package : String) : List Char :=
  if package.isEmpty then [] else "package ".toList ++ package.toList ++ [';', '\n', '\n']

/-- What stands in front of the declaration of the class, behind the package. -/
def opening (r : Rendering) : List Char := joined (r.frame.doc.fillBy r.value?).segments

/-- What stands behind the name of the class. -/
def remainder (r : Rendering) : List Char :=
  (joined [r.frame.name.fillBy r.value?]).dropWhile isNameChar ++
    (r.frame.trail.toList ++ (joined (r.frame.more.map (Segment.fillBy r.value?)) ++
      '\n' :: joined ((r.frame.rest ++ r.rest).fillBy r.value?).segments))

/-- The declaration of the class, and what stands behind it. -/
theorem declaration_eq (r : Rendering) : r.frame.lead.toList ++ r.className.toList ++ r.remainder =
    joined (r.frame.declaration.map (Segment.fillBy r.value?)) ++
      '\n' :: joined ((r.frame.rest ++ r.rest).fillBy r.value?).segments := by
  have hname : r.className.toList ++ (joined [r.frame.name.fillBy r.value?]).dropWhile isNameChar =
      joined [r.frame.name.fillBy r.value?] := by
    rw [className, String.toList_ofList]
    exact List.takeWhile_append_dropWhile
  have hdecl : joined (r.frame.declaration.map (Segment.fillBy r.value?)) =
      r.frame.lead.toList ++ (joined [r.frame.name.fillBy r.value?] ++ (r.frame.trail.toList ++
        joined (r.frame.more.map (Segment.fillBy r.value?)))) := by
    simp [Frame.declaration, Segment.fillBy, Segment.toText]
  rw [hdecl, ← hname, remainder]
  simp only [List.append_assoc]

/-- A source is what declares the package, and the lines for the default package behind it. -/
theorem IsSource.toList_eq_heading (h : r.IsSource package text) :
    text.toList = heading package ++
      joined (Layout.fillBy r.value? (r.frame.inner ++ r.rest)).segments := by
  rw [h.toList_eq, lines, heading]
  split
  · rw [List.nil_append]
  · have hpackage : Layout.fillBy r.value? (r.frame.layout ++ r.rest) =
        [.text "package ", .text package, .text ";"] :: [] ::
          Layout.fillBy r.value? (r.frame.inner ++ r.rest) := by
      have hhole : Segment.fillBy r.value? (.hole .package) = .text package := by
        rw [Segment.fillBy, h.declared, Option.elim_some]
      rw [Frame.layout, List.cons_append, List.cons_append, ← hhole]
      rfl
    rw [hpackage, Layout.segments_cons, Layout.segments_cons]
    simp [Segment.toText]

/-- The parts of a source. -/
theorem IsSource.toList_eq_append (h : r.IsSource package text) :
    text.toList = heading package ++ (r.opening ++
      (r.frame.lead.toList ++ r.className.toList ++ r.remainder)) := by
  have hfeed : (Segment.text "\n").toText.toList = ['\n'] := rfl
  have hcons : Layout.fillBy r.value? (r.frame.declaration :: (r.frame.rest ++ r.rest)) =
      r.frame.declaration.map (Segment.fillBy r.value?) ::
        (r.frame.rest ++ r.rest).fillBy r.value? := rfl
  rw [h.toList_eq_heading, Frame.inner, List.append_assoc, List.cons_append, Layout.fillBy_append,
    Layout.segments_append, joined_append, hcons, Layout.segments_cons, joined_append,
    joined_cons, hfeed, List.singleton_append, declaration_eq, opening]

theorem mem_lines_of_mem_inner {line : Line} (h : line ∈ r.frame.inner ++ r.rest) :
    line ∈ r.lines package := by
  rcases List.mem_append.1 h with h | h
  · refine List.mem_append_left _ ?_
    split
    · exact h
    · exact List.mem_cons_of_mem _ (List.mem_cons_of_mem _ h)
  · exact List.mem_append_right _ h

/-- No hole of a line is left. -/
theorem IsSource.exists_text (h : r.IsSource package text) {line : Line}
    (hline : line ∈ r.lines package) :
    ∀ g ∈ line.map (Segment.fillBy r.value?), ∃ s, g = .text s := by
  refine exists_text_of_holesOf fun k hk => ?_
  obtain ⟨hmem, hnone⟩ := mem_holesOf_fillBy.1 hk
  exact h.full k (Layout.mem_holesOf_segments.2 ⟨line, hline, hmem⟩) hnone

/-- No line starts with a character that is kept from the starts of the lines of the template. -/
theorem IsSource.isApart_of_isSealed (h : r.IsSource package text) {bad : Char} (hbad : bad ≠ '\n')
    {l : Layout} (hl : ∀ line ∈ l, line ∈ r.frame.inner ++ r.rest)
    (hsealed : ∀ line ∈ l.fillBy r.value?, isSealed '\n' bad true line = true) :
    Text.isApart '\n' bad true (joined (l.fillBy r.value?).segments) = true ∧
      isBehind '\n' true (joined (l.fillBy r.value?).segments) = true := by
  obtain ⟨hapart, hbehind⟩ := Layout.isSealed_segments hbad rfl hsealed
  have htext : ∀ g ∈ (l.fillBy r.value?).segments, ∃ s, g = .text s := by
    intro g hg
    obtain ⟨line, hline, hg⟩ := List.mem_flatMap.1 hg
    rcases List.mem_append.1 hg with hg | hg
    · obtain ⟨line, hmem, rfl⟩ := List.mem_map.1 hline
      exact h.exists_text (mem_lines_of_mem_inner (hl line hmem)) g hg
    · exact ⟨"\n", List.mem_singleton.1 hg⟩
  exact ⟨isApart_joined htext hapart, (isBehind_joined htext).trans hbehind⟩

/-- No line starts with a `p` where the lines of the template are sealed. -/
theorem IsSource.isApart_lines (h : r.IsSource package text) {l : Layout}
    (hl : ∀ line ∈ l, line ∈ r.frame.inner ++ r.rest ∧ line.IsSealed) :
    Text.isApart '\n' 'p' true (joined (l.fillBy r.value?).segments) = true ∧
      isBehind '\n' true (joined (l.fillBy r.value?).segments) = true := by
  have hsealed := Layout.isSealed_of_mem_fillBy (fun line hline => (hl line hline).2) h.fits
  exact h.isApart_of_isSealed (by decide) (fun line hline => (hl line hline).1)
    fun line hline => (hsealed line hline).unmarked

theorem IsSource.opening_spec (h : r.IsSource package text) :
    Text.isApart '\n' 'p' true r.opening = true ∧ isBehind '\n' true r.opening = true := by
  refine h.isApart_lines fun line hline => ⟨?_, (h.frame.doc line hline).1.toIsSealed⟩
  exact List.mem_append_left _ (List.mem_append_left _ hline)

/-- Behind the first line of the declaration no line starts with a `p`. -/
theorem IsSource.isApart_declaration (h : r.IsSource package text) :
    Text.isApart '\n' 'p' false (r.frame.lead.toList ++ r.className.toList ++ r.remainder) =
      true := by
  have hmem : r.frame.declaration ∈ r.frame.inner ++ r.rest :=
    List.mem_append_left _ (List.mem_append_right _ (List.mem_cons_self ..))
  have hdecl : Text.isApart '\n' 'p' false
      (joined (r.frame.declaration.map (Segment.fillBy r.value?))) = true :=
    isApart_joined (h.exists_text (mem_lines_of_mem_inner hmem))
      (isSealed_fillBy (fun k v hv => (h.fits k v hv).2) h.frame.unmarked)
  have hrest := (h.isApart_lines (l := r.frame.rest ++ r.rest) fun line hline => by
    rcases List.mem_append.1 hline with hline | hline
    · refine ⟨?_, (h.frame.rest line hline).toIsSealed⟩
      exact List.mem_append_left _ (List.mem_append_right _ (List.mem_cons_of_mem _ hline))
    · exact ⟨List.mem_append_right _ hline, h.rest line hline⟩).1
  rw [declaration_eq, isApart_append, hdecl]
  simp [Text.isApart, hrest]

/-! ## What a source declares -/

theorem toList_className (r : Rendering) :
    r.className.toList = (joined [r.frame.name.fillBy r.value?]).takeWhile isNameChar := by
  rw [className, String.toList_ofList]

theorem isNameChar_of_mem_className {c : Char} (hc : c ∈ r.className.toList) :
    isNameChar c = true := by
  rw [toList_className] at hc
  exact List.all_eq_true.1 List.all_takeWhile c hc

theorem IsSource.className_ne_nil (h : r.IsSource package text) : r.className.toList ≠ [] := by
  have hnamed := h.named
  rw [toList_className]
  cases hname : joined [r.frame.name.fillBy r.value?] with
  | nil =>
    rw [hname] at hnamed
    exact absurd hnamed (by simp)
  | cons c cs =>
    rw [hname] at hnamed
    rw [List.takeWhile_cons_of_pos (by simpa using hnamed)]
    exact List.cons_ne_nil _ _

/-- The name of the class ends where its characters end. -/
theorem IsSource.takeWhile_eq (h : r.IsSource package text) {more : List Char}
    (hmore : more <+: r.remainder) :
    (r.className.toList ++ more).takeWhile isNameChar = r.className.toList := by
  rw [List.takeWhile_append_of_pos fun c hc => isNameChar_of_mem_className hc]
  have hremainder : r.remainder.head?.any (!isNameChar ·) = true := by
    rw [remainder]
    -- What follows is the rest of the segment with the name, or what stands behind that segment.
    cases hdrop : (joined [r.frame.name.fillBy r.value?]).dropWhile isNameChar with
    | nil =>
      have htrail := h.frame.trail
      rw [List.nil_append]
      cases ht : r.frame.trail.toList with
      | nil => simp [ht] at htrail
      | cons c cs => simpa [ht] using htrail
    | cons c cs =>
      have hc := List.head?_dropWhile_not isNameChar (joined [r.frame.name.fillBy r.value?])
      rw [hdrop] at hc
      simpa using hc
  cases more with
  | nil => simp
  | cons c cs =>
    obtain ⟨t, ht⟩ := hmore
    rw [← ht] at hremainder
    rw [List.takeWhile_cons_of_neg (by simpa using hremainder), List.append_nil]

theorem IsSource.lineFeed_not_mem (h : r.IsSource package text) :
    '\n' ∉ r.frame.lead.toList ++ r.className.toList := by
  rw [List.mem_append, not_or]
  constructor
  · rcases h.frame.lead with hlead | ⟨hlead, -⟩
    · rw [hlead]
      decide
    · rw [hlead]
      decide
  · intro hc
    exact absurd (isNameChar_of_mem_className hc) (by decide)

/-- The lines of the declaration of the class and of what stands behind it. -/
theorem IsSource.exists_lines (h : r.IsSource package text) :
    ∃ more lines, more <+: r.remainder ∧
      linesWithEnds (r.frame.lead.toList ++ r.className.toList ++ r.remainder) =
        (r.frame.lead.toList ++ r.className.toList ++ more) :: lines ∧
      ∀ line ∈ lines, line.head? ≠ some 'p' := by
  have hne : r.frame.lead.toList ++ r.className.toList ≠ [] := by
    simp [h.className_ne_nil]
  obtain ⟨more, lines, hmore, hlines⟩ :=
    exists_linesWithEnds_append h.lineFeed_not_mem hne r.remainder
  have htail := (head?_ne_of_isApart h.isApart_declaration).2
  rw [hlines] at htail
  exact ⟨more, lines, ⟨lines.flatten, hmore.symm⟩, hlines, htail⟩

/-- The lines of the declaration of the package. -/
theorem linesWithEnds_heading (h : Inline package) : linesWithEnds (heading package) =
    if package.isEmpty then []
    else ["package ".toList ++ package.toList ++ [';', '\n'], ['\n']] := by
  rw [heading]
  split
  · rfl
  · have hfeed : '\n' ∉ "package ".toList ++ package.toList ++ [';'] := by
      simp only [List.mem_append, not_or]
      exact ⟨⟨by decide, h.not_mem.2⟩, by decide⟩
    have hline := linesWithEnds_line hfeed ['\n']
    have hblank : linesWithEnds ['\n'] = [['\n']] := rfl
    rw [hblank] at hline
    simpa using hline

theorem isBehind_heading (package : String) : isBehind '\n' true (heading package) = true := by
  rw [heading]
  split
  · rfl
  · rw [isBehind_append]
    rfl

/-- The lines of a source. -/
theorem IsSource.linesWithEnds_eq (h : r.IsSource package text) :
    linesWithEnds text.toList = linesWithEnds (heading package) ++ (linesWithEnds r.opening ++
      linesWithEnds (r.frame.lead.toList ++ r.className.toList ++ r.remainder)) := by
  rw [h.toList_eq_append, linesWithEnds_append (isBehind_heading package),
    linesWithEnds_append h.opening_spec.2]

/-- Where only lines that start with a `p` are read, and not those that declare a package, a source
    is read as the declaration of its class. -/
theorem IsSource.filterMap_lines {α : Type} {read : List Char → Option α}
    (h : r.IsSource package text) (hread : ∀ line, line.head? ≠ some 'p' → read line = none)
    (hpackage : ∀ s, read ("package ".toList ++ s) = none) :
    ∃ more lines, more <+: r.remainder ∧
      linesWithEnds (r.frame.lead.toList ++ r.className.toList ++ r.remainder) =
        (r.frame.lead.toList ++ r.className.toList ++ more) :: lines ∧
      (linesWithEnds text.toList).filterMap read =
        (read (r.frame.lead.toList ++ r.className.toList ++ more)).toList := by
  obtain ⟨more, lines, hmore, hlines, htail⟩ := h.exists_lines
  have hnone : ∀ ls : List (List Char), (∀ line ∈ ls, read line = none) → ls.filterMap read = [] :=
    fun ls hls => List.filterMap_eq_nil_iff.2 hls
  have hheading : ∀ line ∈ linesWithEnds (heading package), read line = none := by
    intro line hline
    rw [linesWithEnds_heading h.inline] at hline
    split at hline
    · exact absurd hline List.not_mem_nil
    · rcases List.mem_cons.1 hline with rfl | hline
      · rw [List.append_assoc, hpackage]
      · exact hread line (by rw [List.mem_singleton.1 hline]; decide)
  -- Neither the opening nor what stands behind the declaration has a line that starts with `p`.
  have hopening : ∀ line ∈ linesWithEnds r.opening, read line = none :=
    fun line hline => hread line (head?_ne_of_mem_linesWithEnds h.opening_spec.1 hline)
  have htail : lines.filterMap read = [] := hnone _ fun line hline => hread line (htail line hline)
  refine ⟨more, lines, hmore, hlines, ?_⟩
  rw [h.linesWithEnds_eq, hlines, List.filterMap_append, List.filterMap_append, hnone _ hheading,
    hnone _ hopening, List.nil_append, List.nil_append]
  cases hfirst : read (r.frame.lead.toList ++ r.className.toList ++ more) with
  | none => rw [List.filterMap_cons_none hfirst, htail, Option.toList_none]
  | some a => rw [List.filterMap_cons_some hfirst, htail, Option.toList_some]

/-- A source declares one class at its top level. -/
theorem IsSource.topLevelClasses_eq (h : r.IsSource package text) :
    topLevelClasses text = [r.className] := by
  obtain ⟨more, -, hmore, -, hlines⟩ :=
    h.filterMap_lines (fun _ => topLevelClass?_eq_none) fun _ => rfl
  rw [topLevelClasses, hlines, List.append_assoc, topLevelClass?_eq_some
    (h.frame.lead.imp_right And.left) (h.takeWhile_eq hmore) h.className_ne_nil,
    String.ofList_toList, Option.toList_some]

/-- A source starts with the declaration of its package, if it has one. -/
theorem IsSource.package_prefix (h : r.IsSource package text) (hp : package ≠ "") :
    ("package " ++ package ++ ";").toList <+: text.toList := by
  have hne : package.isEmpty = false := by simpa using hp
  rw [h.toList_eq_append, heading, hne]
  exact ⟨'\n' :: '\n' :: (r.opening ++ (r.frame.lead.toList ++ r.className.toList ++ r.remainder)),
    by simp⟩

/-- A source in the default package declares no package. -/
theorem IsSource.not_package_prefix (h : r.IsSource package text) (hp : package = "") :
    ∀ line ∈ linesWithEnds text.toList, ¬ "package ".toList <+: line := by
  obtain ⟨more, lines, -, hlines, htail⟩ := h.exists_lines
  have hempty : linesWithEnds (heading package) = [] := by
    rw [hp]
    rfl
  have hhead : ∀ line : List Char, line.head? ≠ some 'p' → ¬ "package ".toList <+: line := by
    rintro line hne ⟨t, rfl⟩
    exact hne rfl
  intro line hline
  rw [h.linesWithEnds_eq, hempty, List.nil_append, hlines, List.mem_append, List.mem_cons] at hline
  rcases hline with hline | rfl | hline
  · exact hhead line (head?_ne_of_mem_linesWithEnds h.opening_spec.1 hline)
  · -- The line that declares the class starts with another word.
    rintro ⟨t, ht⟩
    have hsecond := congrArg (fun s : List Char => s.tail.head?) ht
    rcases h.frame.lead with hlead | ⟨hlead, -⟩
    · rw [hlead, List.append_assoc] at hsecond
      exact absurd (Option.some.inj hsecond) (by decide)
    · rw [hlead, List.append_assoc] at hsecond
      exact absurd (Option.some.inj hsecond) (by decide)
  · exact hhead line (htail line hline)

end Rendering

/-- A text that is the source of a class in a package. -/
def IsSourceOf (package name text : String) : Prop :=
  ∃ r : Rendering, r.IsSource package text ∧ r.className = name

end AssertionWriter.Template
