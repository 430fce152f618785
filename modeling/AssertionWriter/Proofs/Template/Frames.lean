/-
  AssertionWriter.Proofs.Template.Frames

  What the default templates look like. A template for methods has plain lines only; a frame
  declares the package first and a class later on, with plain lines between and behind.
  For the default package the first two lines of a frame are left out, and a natural order
  changes the declaration of the class and nothing else.
-/
import AssertionWriter.AssertionClass.Basic
import AssertionWriter.Proofs.Template.Spelling

namespace AssertionWriter.Template
open Text QualifiedName

/-! ## Lines -/

/-- A line in which no token can arise and no line can start with the letter `p`. -/
structure Line.IsSealed (line : Line) : Prop where
  sealed : isSealed '$' '\x7b' false line = true
  unmarked : isSealed '\n' 'p' true line = true

/-- A sealed line that declares no package. -/
structure Line.IsPlain (line : Line) : Prop extends line.IsSealed where
  single : '\n' ∉ joined line
  noPackage : trim (joined line ++ ['\n']) ≠ packageLine.toList

/-- A line of documentation in front of a class, or the imports. -/
def Line.IsDoc (line : Line) : Prop :=
  (∃ more, line = .hole .imports :: more) ∨
    ∃ s more c r, line = .text s :: more ∧ trimStart s.toList = c :: r ∧ c ≠ 'p'

namespace Piece

/-- Whether no token can arise in a line and no line can start with the letter `p`. -/
def isUnmarked (ps : List Piece) : Bool :=
  isSealed '$' '\x7b' false ps && isSealed '\n' 'p' true ps

/-- Whether a line is plain. -/
def isPlain (ps : List Piece) : Bool :=
  isUnmarked ps && lacks '\n' ps && !mayDeclarePackage ps

/-- Whether a line is one of documentation. -/
def isDoc : List Piece → Bool
  | .hole h :: _ => h = .imports
  | .chars cs :: _ => (trimStart cs).head?.any (· ≠ 'p')
  | [] => false

end Piece

theorem not_lineFeed_mem_token (h : Hole) : '\n' ∉ h.token.toList :=
  Hole.not_mem_token (by decide) (by decide) h

theorem SpelledLine.isSealed {line : Line} {ps : List Piece} (h : SpelledLine line ps)
    (hp : Piece.isUnmarked ps = true) : line.IsSealed := by
  rw [Piece.isUnmarked, Bool.and_eq_true] at hp
  exact ⟨(h.isSealed_eq _).trans hp.1, (h.isSealed_eq _).trans hp.2⟩

theorem SpelledLine.isPlain {line : Line} {ps : List Piece} (h : SpelledLine line ps)
    (hp : Piece.isPlain ps = true) : line.IsPlain := by
  simp only [Piece.isPlain, Bool.and_eq_true, Bool.not_eq_true'] at hp
  obtain ⟨⟨hsealed, hsingle⟩, hpackage⟩ := hp
  exact ⟨h.isSealed hsealed, h.not_mem_joined not_lineFeed_mem_token hsingle,
    h.trim_ne_packageLine hpackage⟩

theorem SpelledLine.isDoc {line : Line} {ps : List Piece} (h : SpelledLine line ps)
    (hp : Piece.isDoc ps = true) : line.IsDoc := by
  cases h with
  | nil => exact absurd hp (by simp [Piece.isDoc])
  | @text s cs line ps hs _ =>
    rw [Piece.isDoc] at hp
    cases hc : trimStart cs with
    | nil => simp [hc] at hp
    | cons c r =>
      rw [hc] at hp
      exact .inr ⟨s, line, c, r, rfl, hs.toList_eq ▸ hc, by simpa using hp⟩
  | @hole k line ps _ =>
    rw [Piece.isDoc, decide_eq_true_eq] at hp
    exact .inl ⟨line, by rw [hp]⟩

/-! ## Frames -/

/-- The parts of a frame between the declaration of the package and the methods. -/
structure Frame where
  /-- The imports and the documentation. -/
  doc : Layout
  /-- What the declaration of the class starts with. -/
  lead : String
  name : Segment
  /-- What stands behind the name of the class. -/
  trail : String
  more : Line
  rest : Layout

namespace Frame

/-- The line that declares the class. -/
def declaration (f : Frame) : Line := .text f.lead :: f.name :: .text f.trail :: f.more

/-- The lines for the default package. -/
def inner (f : Frame) : Layout := f.doc ++ f.declaration :: f.rest

/-- The lines for any other package. -/
def layout (f : Frame) : Layout := ["package ", .hole .package, ";"] :: [] :: f.inner

/-- What frames have in common. -/
structure WellFormed (f : Frame) : Prop where
  doc : ∀ line ∈ f.doc, line.IsPlain ∧ line.IsDoc
  lead : f.lead = "public class " ∨
    f.lead = "public abstract class " ∧ f.name = .hole .assertClass
  name : f.name = .hole .assertClass ∨
    ∃ n, f.name = .text n ∧ n.toList.head?.any isNameChar = true
  trail : f.trail.toList.head?.any (!isNameChar ·) = true
  sealed : isSealed '$' '\x7b' false f.declaration = true
  unmarked : isSealed '\n' 'p' false f.declaration = true
  single : '\n' ∉ joined f.declaration
  noPackage : trim (joined f.declaration ++ ['\n']) ≠ packageLine.toList
  rest : ∀ line ∈ f.rest, line.IsPlain

end Frame

namespace Piece

/-- Whether a piece starts with the name of a class. -/
def isClassName : Piece → Bool
  | .hole h => h = .assertClass
  | .chars cs => cs.head?.any isNameChar

/-- Whether a line declares a class. -/
def isDeclaration : List Piece → Bool
  | ps@(.chars lead :: name :: .chars trail :: _) =>
    (lead = "public class ".toList ||
      lead = "public abstract class ".toList && name = .hole .assertClass) &&
    name.isClassName && trail.head?.any (!isNameChar ·) &&
    isSealed '$' '\x7b' false ps && isSealed '\n' 'p' false ps && lacks '\n' ps &&
    !mayDeclarePackage ps
  | _ => false

/-- Whether lines are those of a frame for the default package. -/
def isInner : List (List Piece) → Bool
  | [] => false
  | ps :: lines =>
    if isPlain ps then isDoc ps && isInner lines else isDeclaration ps && lines.all isPlain

/-- Whether lines are those of a frame. -/
def isFrame : List (List Piece) → Bool
  | [.chars lead, .hole .package, .chars trail] :: [] :: lines =>
    lead = "package ".toList && trail = ";".toList && isInner lines
  | _ => false

end Piece

theorem SpelledLine.of_chars {line : Line} {cs : List Char} {ps : List Piece}
    (h : SpelledLine line (.chars cs :: ps)) :
    ∃ s line', line = .text s :: line' ∧ s.toList = cs ∧ SpelledLine line' ps := by
  cases h with
  | text hs h => exact ⟨_, _, rfl, hs.toList_eq, h⟩

theorem SpelledLine.of_hole {line : Line} {k : Hole} {ps : List Piece}
    (h : SpelledLine line (.hole k :: ps)) :
    ∃ line', line = .hole k :: line' ∧ SpelledLine line' ps := by
  cases h with
  | hole h => exact ⟨_, rfl, h⟩

theorem SpelledLine.exists_declaration {line : Line} {ps : List Piece} (h : SpelledLine line ps)
    (hp : Piece.isDeclaration ps = true) {rest : Layout} (hrest : ∀ line ∈ rest, line.IsPlain) :
    ∃ f : Frame, line = f.declaration ∧ f.doc = [] ∧ f.rest = rest ∧ f.WellFormed := by
  rw [Piece.isDeclaration.eq_def] at hp
  split at hp
  · next lead name trail more =>
    simp only [Bool.and_eq_true, Bool.or_eq_true, decide_eq_true_eq, Bool.not_eq_true'] at hp
    obtain ⟨⟨⟨⟨⟨⟨hlead, hname⟩, htrail⟩, hsealed'⟩, hunmarked'⟩, hsingle'⟩, hpackage'⟩ := hp
    have hsealed := (h.isSealed_eq _).trans hsealed'
    have hunmarked := (h.isSealed_eq _).trans hunmarked'
    have hsingle := h.not_mem_joined not_lineFeed_mem_token hsingle'
    have hpackage := h.trim_ne_packageLine hpackage'
    obtain ⟨s, line, rfl, rfl, hbehind⟩ := h.of_chars
    rw [String.toList_inj, String.toList_inj] at hlead
    cases name with
    | hole k =>
      obtain ⟨line, rfl, htail⟩ := hbehind.of_hole
      obtain ⟨t, more, rfl, rfl, -⟩ := htail.of_chars
      obtain rfl : k = .assertClass := by simpa [Piece.isClassName] using hname
      exact ⟨⟨[], s, .hole .assertClass, t, more, rest⟩, rfl, rfl, rfl, by simp,
        hlead.imp_right fun h => ⟨h.1, rfl⟩, .inl rfl, htrail, hsealed, hunmarked, hsingle,
        hpackage, hrest⟩
    | chars cs =>
      obtain ⟨n, line, rfl, rfl, htail⟩ := hbehind.of_chars
      obtain ⟨t, more, rfl, rfl, -⟩ := htail.of_chars
      exact ⟨⟨[], s, .text n, t, more, rest⟩, rfl, rfl, rfl, by simp,
        hlead.imp_right fun h => absurd h.2 (by simp), .inr ⟨n, rfl, hname⟩, htrail, hsealed,
        hunmarked, hsingle, hpackage, hrest⟩
  · exact absurd hp (by simp)

theorem SpelledLayout.exists_inner {l : Layout} {lines : List (List Piece)}
    (h : SpelledLayout l lines) (hi : Piece.isInner lines = true) :
    ∃ f : Frame, l = f.inner ∧ f.WellFormed := by
  induction h with
  | nil => exact absurd hi (by simp [Piece.isInner])
  | @cons line ps l lines hline hl ih =>
    rw [Piece.isInner] at hi
    -- Plain lines are documentation; the first other one declares the class.
    split at hi
    · next hplain =>
      rw [Bool.and_eq_true] at hi
      obtain ⟨f, rfl, hf⟩ := ih hi.2
      refine ⟨{ f with doc := line :: f.doc }, rfl, { hf with doc := ?_ }⟩
      intro d hd
      rcases List.mem_cons.1 hd with rfl | hd
      · exact ⟨hline.isPlain hplain, hline.isDoc hi.1⟩
      · exact hf.doc d hd
    · rw [Bool.and_eq_true] at hi
      have hrest : ∀ line ∈ l, line.IsPlain := by
        intro d hd
        obtain ⟨qs, hqs, hd⟩ := hl.exists_of_mem hd
        exact hd.isPlain (List.all_eq_true.1 hi.2 qs hqs)
      obtain ⟨f, hdecl, hdoc, hfrest, hf⟩ := hline.exists_declaration hi.1 hrest
      exact ⟨f, by rw [Frame.inner, hdoc, hfrest, hdecl, List.nil_append], hf⟩

/-- Whether a template is a frame can be computed from its spelling. -/
theorem SpelledLayout.exists_frame {l : Layout} {lines : List (List Piece)}
    (h : SpelledLayout l lines) (hf : Piece.isFrame lines = true) :
    ∃ f : Frame, l = f.layout ∧ f.WellFormed := by
  rw [Piece.isFrame.eq_def] at hf
  split at hf
  · next lead trail lines =>
    simp only [Bool.and_eq_true, decide_eq_true_eq] at hf
    obtain ⟨⟨hlead, htrail⟩, hinner⟩ := hf
    cases h with
    | cons hpackage h =>
      cases h with
      | cons hnil h =>
        cases hnil
        obtain ⟨f, rfl, hwf⟩ := h.exists_inner hinner
        obtain ⟨s, line, rfl, hs, hpackage⟩ := hpackage.of_chars
        obtain ⟨line, rfl, hbehind⟩ := hpackage.of_hole
        obtain ⟨t, line, rfl, ht, hend⟩ := hbehind.of_chars
        cases hend
        rw [String.toList_inj.1 (hs.trans hlead), String.toList_inj.1 (ht.trans htrail)]
        exact ⟨f, rfl, hwf⟩
  · exact absurd hf (by simp)

/-! ## Lines of a template -/

theorem Layout.segments_cons (line : Line) (l : Layout) :
    Layout.segments (line :: l) = line ++ .text "\n" :: l.segments := by
  simp [Layout.segments]

theorem Layout.segments_append (l l' : Layout) :
    Layout.segments (l ++ l') = l.segments ++ l'.segments := by
  simp [Layout.segments]

/-- Lines that are sealed on their own are so together, since each ends with a line feed. -/
theorem Layout.isSealed_segments {mark bad : Char} {behind : Bool} (hbad : bad ≠ '\n')
    (hfeed : decide ('\n' = mark) = behind) {l : Layout}
    (h : ∀ line ∈ l, isSealed mark bad behind line = true) :
    isSealed mark bad behind l.segments = true ∧ mayEndBehind mark behind l.segments = behind := by
  have htext : "\n".toList = ['\n'] := rfl
  have hend : ∀ b, isBehind mark b "\n".toList = behind := by
    intro b
    rw [htext, isBehind, hfeed]
    rfl
  induction l with
  | nil => exact ⟨rfl, rfl⟩
  | cons line l ih =>
    -- However the line ends, its line feed decides what stands in front of the rest.
    obtain ⟨ihsealed, ihend⟩ := ih fun line' hline => h line' (List.mem_cons_of_mem _ hline)
    have hapart : ∀ b, isApart mark bad b "\n".toList = true := by
      intro b
      simp [htext, isApart, Ne.symm hbad]
    rw [Layout.segments_cons, isSealed_append, mayEndBehind_append, h line (by simp), isSealed,
      mayEndBehind, hend, hapart, ihsealed, ihend]
    exact ⟨rfl, rfl⟩

/-- The lines of a template come first in a text that starts with them. -/
theorem Layout.linesWithEnds_joined_append {l : Layout} (h : ∀ line ∈ l, '\n' ∉ joined line)
    (s : List Char) : linesWithEnds (joined l.segments ++ s) =
      (l.map fun line => joined line ++ ['\n']) ++ linesWithEnds s := by
  induction l with
  | nil => rfl
  | cons line l ih =>
    have htext : (Segment.text "\n").toText.toList = ['\n'] := rfl
    rw [Layout.segments_cons, joined_append, joined_cons, htext, List.singleton_append,
      List.append_assoc, List.cons_append, linesWithEnds_line (h line (by simp)),
      ih fun line' hline => h line' (List.mem_cons_of_mem _ hline), List.map_cons, List.cons_append]

/-- The lines of a template are the lines of its text. -/
theorem Layout.linesWithEnds_joined {l : Layout} (h : ∀ line ∈ l, '\n' ∉ joined line) :
    linesWithEnds (joined l.segments) = l.map fun line => joined line ++ ['\n'] := by
  have hlines := Layout.linesWithEnds_joined_append h []
  rwa [linesWithEnds, List.append_nil, List.append_nil] at hlines

theorem Layout.flatten_lines (l : Layout) :
    (l.map fun line => joined line ++ ['\n']).flatten = joined l.segments := by
  induction l with
  | nil => rfl
  | cons line l ih =>
    rw [List.map_cons, List.flatten_cons, ih, Layout.segments_cons, joined_append, joined_cons]
    simp [Segment.toText]

/-! ## The default package -/

theorem dropPackageLines_of_ne {lines : List (List Char)}
    (h : ∀ line ∈ lines, trim line ≠ packageLine.toList) : dropPackageLines lines = lines := by
  induction lines with
  | nil => rfl
  | cons line lines ih =>
    rw [dropPackageLines.eq_def]
    simp only [h line (by simp), if_false]
    rw [ih fun line' hline => h line' (List.mem_cons_of_mem _ hline)]

/-- The declaration of the package is dropped, with the blank line behind it. -/
theorem dropPackageLines_declaration {line blank : List Char} (h : trim line = packageLine.toList)
    (hblank : trim blank = []) (lines : List (List Char)) :
    dropPackageLines (line :: blank :: lines) = dropPackageLines lines := by
  rw [dropPackageLines.eq_def]
  simp [h, hblank]

namespace Frame.WellFormed

variable {f : Frame}

theorem forall_inner {P : Line → Prop} (hdoc : ∀ line ∈ f.doc, P line) (hdecl : P f.declaration)
    (hrest : ∀ line ∈ f.rest, P line) : ∀ line ∈ f.inner, P line := by
  intro line hline
  rw [inner, List.mem_append, List.mem_cons] at hline
  rcases hline with hline | rfl | hline
  · exact hdoc line hline
  · exact hdecl
  · exact hrest line hline

theorem inner_single (hf : f.WellFormed) : ∀ line ∈ f.inner, '\n' ∉ joined line :=
  forall_inner (fun line h => (hf.doc line h).1.single) hf.single
    fun line h => (hf.rest line h).single

theorem inner_noPackage (hf : f.WellFormed) :
    ∀ line ∈ f.inner, trim (joined line ++ ['\n']) ≠ packageLine.toList :=
  forall_inner (fun line h => (hf.doc line h).1.noPackage) hf.noPackage
    fun line h => (hf.rest line h).noPackage

theorem inner_sealed (hf : f.WellFormed) :
    ∀ line ∈ f.inner, isSealed '$' '\x7b' false line = true :=
  forall_inner (fun line h => (hf.doc line h).1.sealed) hf.sealed
    fun line h => (hf.rest line h).sealed

theorem isSealed_of_mem (hf : f.WellFormed) {package : String} :
    ∀ line ∈ (if package.isEmpty then f.inner else f.layout),
      isSealed '$' '\x7b' false line = true := by
  intro line hline
  split at hline
  · exact hf.inner_sealed line hline
  · rw [Frame.layout, List.mem_cons, List.mem_cons] at hline
    rcases hline with rfl | rfl | hline
    · decide
    · rfl
    · exact hf.inner_sealed line hline

/-- The line that starts with a `p`, and does not declare the package, declares the class. -/
theorem declaration_eq (hf : f.WellFormed) {s : String} {more : Line}
    (hline : .text s :: more ∈ f.layout) (hs : s.toList.head? = some 'p') (hne : s ≠ "package ") :
    f.declaration = .text s :: more := by
  have hplain : ¬Line.IsPlain (.text s :: more) := by
    intro hplain
    have hunmarked := hplain.unmarked
    cases hc : s.toList with
    | nil => simp [hc] at hs
    | cons c cs =>
      obtain rfl : c = 'p' := by simpa [hc] using hs
      simp [Template.isSealed, isApart, hc] at hunmarked
  rw [layout, inner, List.mem_cons, List.mem_cons, List.mem_append, List.mem_cons] at hline
  rcases hline with hline | hline | hline | hline | hline
  · exact absurd (Segment.text.inj (List.cons.inj hline).1) hne
  · cases hline
  · exact absurd (hf.doc _ hline).1 hplain
  · exact hline.symm
  · exact absurd (hf.rest _ hline) hplain

/-- In the default package a frame lacks its first two lines. -/
theorem toList_withoutPackage (hf : f.WellFormed) {text : String}
    (htext : text.toList = joined f.layout.segments) :
    (withoutPackage text).toList = joined f.inner.segments := by
  have hpackage : joined ["package ", .hole .package, ";"] = packageLine.toList := by
    simp [joined, Segment.toText, packageLine]
  have htrim : trim (packageLine.toList ++ ['\n']) = packageLine.toList := by decide
  have hblank : trim (joined [] ++ ['\n']) = [] := by decide
  have hsingle : ∀ line ∈ f.layout, '\n' ∉ joined line := by
    intro line hline
    rw [layout, List.mem_cons, List.mem_cons] at hline
    rcases hline with rfl | rfl | hinner
    · rw [hpackage]
      decide
    · exact List.not_mem_nil
    · exact hf.inner_single line hinner
  -- Behind the first two lines no line declares the package, so all of them stay.
  have hdrop : dropPackageLines (f.inner.map fun line => joined line ++ ['\n']) =
      f.inner.map fun line => joined line ++ ['\n'] := by
    refine dropPackageLines_of_ne fun line hline => ?_
    obtain ⟨line, hmem, rfl⟩ := List.mem_map.1 hline
    exact hf.inner_noPackage line hmem
  rw [withoutPackage, String.toList_ofList, htext, Layout.linesWithEnds_joined hsingle, layout,
    List.map_cons, List.map_cons, hpackage, dropPackageLines_declaration htrim hblank, hdrop,
    Layout.flatten_lines]

theorem toList_adaptPackage (hf : f.WellFormed) {text : String}
    (htext : text.toList = joined f.layout.segments) (package : String) :
    (ClassWriter.adaptPackage package text).toList =
      joined (if package.isEmpty then f.inner else f.layout).segments := by
  rw [ClassWriter.adaptPackage]
  split
  · exact hf.toList_withoutPackage htext
  · exact htext

end Frame.WellFormed
end AssertionWriter.Template
