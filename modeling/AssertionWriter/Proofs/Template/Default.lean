/-
  AssertionWriter.Proofs.Template.Default

  The default templates: which of them are frames, which holes they have, and what becomes
  of a frame for values with a natural order and for the default package.
-/
import AssertionWriter.Proofs.Template.Frames

namespace AssertionWriter.Template
open Text

/-! ## Kinds of templates -/

/-- Whether the templates of a role are frames of classes. -/
def Role.isFrame : Role → Bool
  | assertClass | hierarchicalAssertClass | abstractAssertClass
  | assertionsClass | bddAssertionsClass | softAssertionsClass | jUnitSoftAssertionsClass
  | autoCloseableSoftAssertionsClass | bddSoftAssertionsClass | jUnitBddSoftAssertionsClass
  | autoCloseableBddSoftAssertionsClass => true
  | _ => false

namespace ClassLayout

/-- The lines in front of the declaration of a class that holds all methods itself. -/
def flatDoc : Layout := blocks [opening, [
  [" * \x7b@link ", .hole .subject, "\x7d specific assertions - Generated by assertgen."],
  [" */"]]]

/-- The end of the declaration of such a class. -/
def flatArguments : Line := [.hole .assertClass, ", ", .hole .subject, "> \x7b"]

/-- The frame of such a class, with a text between its name and its arguments. -/
def flatWith (superclass : String) : Layout :=
  flatDoc ++ pieces [["public class ", .hole .assertClass, superclass], flatArguments] :: creation

theorem flat_eq : flat = flatWith " extends AbstractObjectAssert<" := rfl

/-- The frame of such a class for values with a natural order. -/
def comparable : Layout := flatWith " extends AbstractComparableAssert<"

end ClassLayout

set_option maxRecDepth 4000 in
/-- Every frame is well formed. -/
theorem Role.exists_frame {r : Role} (h : r.isFrame = true) :
    ∃ f : Frame, r.layout = f.layout ∧ f.WellFormed := by
  -- The constructors find the spelling, and with it the rest can be computed.
  have hspelled : ∃ lines, SpelledLayout r.layout lines ∧ Piece.isFrame lines = true := by
    cases r
    case assertClass | hierarchicalAssertClass | abstractAssertClass | assertionsClass
        | bddAssertionsClass | softAssertionsClass | jUnitSoftAssertionsClass
        | autoCloseableSoftAssertionsClass | bddSoftAssertionsClass
        | jUnitBddSoftAssertionsClass | autoCloseableBddSoftAssertionsClass =>
      apply Exists.intro
      apply And.intro
      · repeat constructor
      · decide
    all_goals exact absurd h (by decide)
  obtain ⟨lines, hl, hf⟩ := hspelled
  exact hl.exists_frame hf

set_option maxRecDepth 4000 in
theorem ClassLayout.exists_frame_comparable :
    ∃ f : Frame, comparable = f.layout ∧ f.WellFormed := by
  have hspelled : ∃ lines, SpelledLayout comparable lines ∧ Piece.isFrame lines = true := by
    apply Exists.intro
    apply And.intro
    · repeat constructor
    · decide
  obtain ⟨lines, hl, hf⟩ := hspelled
  exact hl.exists_frame hf

set_option maxRecDepth 4000 in
/-- Every other template has sealed lines only, none of which can start with the letter that
    imports start with, and none of them is more than a line. -/
theorem Role.spec_of_mem_layout {r : Role} (h : r.isFrame = false) :
    ∀ line ∈ r.layout,
      (line.IsSealed ∧ isSealed '\n' 'i' true line = true) ∧ '\n' ∉ joined line := by
  have hspelled : ∃ lines, SpelledLayout r.layout lines ∧
      (lines.all fun ps => Piece.isUnmarked ps && Piece.isSealed '\n' 'i' true ps &&
        Piece.lacks '\n' ps) = true := by
    cases r
    case assertClass | hierarchicalAssertClass | abstractAssertClass | assertionsClass
        | bddAssertionsClass | softAssertionsClass | jUnitSoftAssertionsClass
        | autoCloseableSoftAssertionsClass | bddSoftAssertionsClass
        | jUnitBddSoftAssertionsClass | autoCloseableBddSoftAssertionsClass =>
      exact absurd h (by decide)
    all_goals
      apply Exists.intro
      apply And.intro
      · repeat constructor
      · decide
  obtain ⟨lines, hl, hall⟩ := hspelled
  intro line hline
  obtain ⟨ps, hps, hspelled⟩ := hl.exists_of_mem hline
  have hline := List.all_eq_true.1 hall ps hps
  rw [Bool.and_eq_true, Bool.and_eq_true] at hline
  exact ⟨⟨hspelled.isSealed hline.1.1, (hspelled.isSealed_eq _).trans hline.1.2⟩,
    hspelled.not_mem_joined not_lineFeed_mem_token hline.2⟩

theorem Role.isSealed_of_mem_layout {r : Role} (h : r.isFrame = false) :
    ∀ line ∈ r.layout, line.IsSealed := fun line hline => (spec_of_mem_layout h line hline).1.1

/-! ## Holes -/

/-- The roles of the frames of assertion classes. -/
def Role.ofClass : List Role := [assertClass, hierarchicalAssertClass, abstractAssertClass]

/-- The holes that the frame of an assertion class may have. -/
def Role.classHoles (r : Role) : List Hole :=
  (if r = abstractAssertClass then [.superclass] else []) ++
    [.package, .imports, .subject, .assertClass]

theorem Role.mem_classHoles {r : Role} (hr : r ∈ ofClass) {h : Hole}
    (hh : h ∈ holesOf r.layout.segments) : h ∈ r.classHoles := by
  have hall : (ofClass.all fun r => (holesOf r.layout.segments).all (· ∈ r.classHoles)) = true := by
    decide
  simpa using List.all_eq_true.1 (List.all_eq_true.1 hall r hr) h hh

theorem ClassLayout.mem_classHoles_of_comparable {h : Hole}
    (hh : h ∈ holesOf comparable.segments) : h ∈ Role.assertClass.classHoles := by
  have hall : (holesOf comparable.segments).all (· ∈ Role.assertClass.classHoles) = true := by
    decide
  simpa using List.all_eq_true.1 hall h hh

/-! ## Names of classes -/

/-- Whether every class that is declared in a template has its name from a hole. -/
def Layout.namesAssertClass (l : Layout) : Bool :=
  l.all fun
    | .text lead :: name :: _ =>
      !(lead = "public class " || lead = "public abstract class ") || name = .hole .assertClass
    | _ => true

theorem Frame.WellFormed.name_eq {f : Frame} (hf : f.WellFormed)
    (h : f.layout.namesAssertClass = true) : f.name = .hole .assertClass := by
  have hmem : f.declaration ∈ f.layout := by simp [layout, inner]
  have hdecl := List.all_eq_true.1 h f.declaration hmem
  rcases hf.lead with hlead | ⟨-, hname⟩
  · simpa [declaration, hlead] using hdecl
  · exact hname

theorem Role.namesAssertClass_layout {r : Role} (hr : r ∈ ofClass) :
    r.layout.namesAssertClass = true := by
  have hall : (ofClass.all fun r => r.layout.namesAssertClass) = true := by decide
  exact List.all_eq_true.1 hall r hr

theorem ClassLayout.namesAssertClass_comparable : comparable.namesAssertClass = true := by
  decide

/-! ## Superclasses -/

theorem SpelledLayout.not_mem_joined {l : Layout} {lines : List (List Piece)}
    (h : SpelledLayout l lines) {x : Char} (hx : ∀ k : Hole, x ∉ k.token.toList) (hfeed : x ≠ '\n')
    (hl : lines.all (Piece.lacks x) = true) : x ∉ joined l.segments := by
  induction h with
  | nil => simp [Layout.segments]
  | cons hline _ ih =>
    rw [List.all_cons, Bool.and_eq_true] at hl
    rw [Layout.segments_cons, joined_append, joined_cons, List.mem_append, List.mem_append,
      not_or, not_or]
    exact ⟨hline.not_mem_joined hx hl.1, by simpa [Segment.toText] using hfeed, ih hl.2⟩

theorem not_O_mem_token (h : Hole) : 'O' ∉ h.token.toList :=
  Hole.not_mem_token (by decide) (by decide) h

set_option maxRecDepth 4000 in
/-- The letter `O` stands in no other frame, and in this one only in the superclass. -/
theorem ClassLayout.not_O_mem :
    'O' ∉ joined flatDoc.segments ∧ 'O' ∉ joined flatArguments ∧
      'O' ∉ joined creation.segments ∧ 'O' ∉ joined concrete.segments ∧
        'O' ∉ joined inheritable.segments := by
  have hlayout : ∀ l : Layout, (∃ lines, SpelledLayout l lines ∧
      lines.all (Piece.lacks 'O') = true) → 'O' ∉ joined l.segments := by
    rintro l ⟨lines, hl, hlacks⟩
    exact hl.not_mem_joined not_O_mem_token (by decide) hlacks
  have hline : ∀ line : Line, (∃ ps, SpelledLine line ps ∧ Piece.lacks 'O' ps = true) →
      'O' ∉ joined line := by
    rintro line ⟨ps, hl, hlacks⟩
    exact hl.not_mem_joined not_O_mem_token hlacks
  refine ⟨hlayout _ ?_, hline _ ?_, hlayout _ ?_, hlayout _ ?_, hlayout _ ?_⟩
  all_goals
    apply Exists.intro
    apply And.intro
    · repeat constructor
    · decide

/-- The frame of the classes for a subject. For values with a natural order it is another one if the
    class holds all methods itself. -/
def Role.layoutFor (r : Role) (s : Surface) : Layout :=
  if s.isComparable = true ∧ r = assertClass then ClassLayout.comparable else r.layout

theorem Role.layoutFor_of_ne {r : Role} (h : r ≠ assertClass) (s : Surface) :
    r.layoutFor s = r.layout := if_neg fun hr => h hr.2

end AssertionWriter.Template

namespace AssertionWriter.ClassWriter
open Template Text

theorem objectAssert_eq :
    objectAssert.toList = "Abstract".toList ++ 'O' :: "bjectAssert".toList := by decide

theorem replaceAll_objectAssert_of_not_mem {s : List Char} (h : 'O' ∉ s) (value : List Char) :
    replaceAll objectAssert.toList value s = s :=
  replaceAll_eq_self (by simp [objectAssert_eq]) h value

/-- The superclass is replaced where it stands. -/
theorem replaceAll_objectAssert {s t : List Char} (hs : 'O' ∉ s) (ht : 'O' ∉ t)
    (value : List Char) :
    replaceAll objectAssert.toList value (s ++ objectAssert.toList ++ t) = s ++ value ++ t := by
  rw [objectAssert_eq, replaceAll_append_target (by decide) hs, ← objectAssert_eq,
    replaceAll_objectAssert_of_not_mem ht]

/-- Only the superclass of a frame is another one for values with a natural order. -/
theorem replaceAll_flat : replaceAll objectAssert.toList comparableAssert.toList
    (joined ClassLayout.flat.segments) = joined ClassLayout.comparable.segments := by
  obtain ⟨hdoc, harguments, hcreation, -, -⟩ := ClassLayout.not_O_mem
  have hname : 'O' ∉ joined [.text "public class ", .hole .assertClass] := by
    simp [joined, Segment.toText, not_O_mem_token]
  have hshape : ∀ s : String, joined (ClassLayout.flatWith s).segments =
      (joined ClassLayout.flatDoc.segments ++ joined [.text "public class ", .hole .assertClass]) ++
        (s.toList ++ (joined ClassLayout.flatArguments ++
          '\n' :: joined ClassLayout.creation.segments)) := by
    intro s
    simp [ClassLayout.flatWith, pieces, Layout.segments_append, Layout.segments_cons,
      Segment.toText]
  have hobject : " extends AbstractObjectAssert<".toList =
      " extends ".toList ++ objectAssert.toList ++ ['<'] := by decide
  have hcomparable : " extends AbstractComparableAssert<".toList =
      " extends ".toList ++ comparableAssert.toList ++ ['<'] := by decide
  -- What stands in front of the superclass, and behind it.
  have hfront : 'O' ∉ joined ClassLayout.flatDoc.segments ++
      joined [.text "public class ", .hole .assertClass] ++ " extends ".toList := by
    rw [List.mem_append, List.mem_append, not_or, not_or]
    exact ⟨⟨hdoc, hname⟩, by decide⟩
  have hback : 'O' ∉ '<' :: (joined ClassLayout.flatArguments ++
      '\n' :: joined ClassLayout.creation.segments) := by
    simp [harguments, hcreation]
  have hreplace := replaceAll_objectAssert hfront hback comparableAssert.toList
  rw [ClassLayout.flat_eq, ClassLayout.comparable, hshape, hshape, hobject, hcomparable]
  simpa only [List.append_assoc, List.singleton_append] using hreplace

/-- The frame that suits a subject is well formed, and has holes for the class alone. -/
theorem exists_frame_of_adaptSuperclass (s : Surface) {r : Role} (hr : r ∈ Role.ofClass) :
    ∃ f : Frame, f.WellFormed ∧ f.layout = r.layoutFor s ∧
      f.name = .hole .assertClass ∧ (adaptSuperclass s r.body).toList = joined f.layout.segments ∧
      ∀ h ∈ holesOf f.layout.segments, h ∈ r.classHoles := by
  have hbody : r.body.toList = joined r.layout.segments := r.layout.toList_toText
  have hcases : r = .assertClass ∨ r = .hierarchicalAssertClass ∨ r = .abstractAssertClass := by
    simpa [Role.ofClass] using hr
  have hframe : r.isFrame = true := by rcases hcases with rfl | rfl | rfl <;> rfl
  obtain ⟨f, hf, hwf⟩ := Role.exists_frame hframe
  have hname := hwf.name_eq (hf ▸ Role.namesAssertClass_layout hr)
  by_cases hs : s.isComparable = true
  · -- Of the three frames only the first has the superclass that is replaced.
    obtain ⟨-, -, -, hconcrete, hinheritable⟩ := ClassLayout.not_O_mem
    rw [adaptSuperclass, if_pos hs, String.toList_ofList, hbody]
    rcases hcases with rfl | rfl | rfl
    · obtain ⟨g, hg, hgwf⟩ := ClassLayout.exists_frame_comparable
      have hlayout : Role.assertClass.layoutFor s = ClassLayout.comparable := if_pos ⟨hs, rfl⟩
      refine ⟨g, hgwf, hg.symm.trans hlayout.symm, ?_, ?_, fun h hh => ?_⟩
      · exact hgwf.name_eq (hg ▸ ClassLayout.namesAssertClass_comparable)
      · rw [← hg]
        exact replaceAll_flat
      · exact ClassLayout.mem_classHoles_of_comparable (hg ▸ hh)
    · refine ⟨f, hwf, hf.symm.trans (Role.layoutFor_of_ne (by decide) s).symm, hname, ?_,
        fun h hh => Role.mem_classHoles hr (hf ▸ hh)⟩
      rw [← hf]
      exact replaceAll_objectAssert_of_not_mem hconcrete _
    · refine ⟨f, hwf, hf.symm.trans (Role.layoutFor_of_ne (by decide) s).symm, hname, ?_,
        fun h hh => Role.mem_classHoles hr (hf ▸ hh)⟩
      rw [← hf]
      exact replaceAll_objectAssert_of_not_mem hinheritable _
  · have hlayout : r.layoutFor s = r.layout := if_neg fun h => hs h.1
    refine ⟨f, hwf, hf.symm.trans hlayout.symm, hname, ?_,
      fun h hh => Role.mem_classHoles hr (hf ▸ hh)⟩
    rw [adaptSuperclass, if_neg hs, hbody, hf]

end AssertionWriter.ClassWriter
