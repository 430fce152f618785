/-
  AssertionWriter.Proofs.AssertionClass.Captures

  Whether a source imports a name that it uses for something else: for the type that it is
  about or for the class that it declares. Which helper classes a source imports depends on
  its text, but a helper class with one of these names is mentioned in every text, if not as
  a helper class. So what is imported is free of such names just if what may be imported is.
-/
import Mathlib.Data.List.Nodup
import AssertionWriter.Proofs.AssertionClass.ImportLines
import AssertionWriter.Proofs.AssertionClass.Superclass
import AssertionWriter.Proofs.QualifiedName.Dotted

namespace AssertionWriter

namespace QualifiedName

theorem WellFormed.outermost {n : QualifiedName} (h : n.WellFormed) :
    isSegment n.outermost.simple.toList = true := by
  unfold QualifiedName.outermost
  split
  · exact h.simple
  · next outer more henclosing => exact h.enclosing outer (by simp [henclosing])

theorem WellFormed.dot_not_mem_outermost {n : QualifiedName} (h : n.WellFormed) :
    '.' ∉ n.outermost.simple.toList := by
  intro hmem
  have hchar := (isPart_iff.1 (isPart_of_isSegment h.outermost)).2 '.' hmem
  exact absurd hchar (by decide)

theorem outerQualified_outermost (n : QualifiedName) :
    n.outermost.outerQualified = n.outermost.simple := by
  unfold QualifiedName.outermost
  split
  · next henclosing => simp [outerQualified, henclosing]
  · simp [outerQualified, topLevelIn]

/-- Seen from its own package a name starts with the class that its nesting starts from. -/
theorem exists_outerQualified_append_dot (n : QualifiedName) :
    ∃ rest, n.outerQualified.toList ++ ['.'] = n.outermost.simple.toList ++ '.' :: rest := by
  rw [toList_outerQualified, chain, QualifiedName.outermost]
  cases n.enclosing with
  | nil => exact ⟨[], by simp⟩
  | cons outer more =>
    have hchain : (outer :: more ++ [n.simple]).map String.toList =
        [outer.toList] ++ (more ++ [n.simple]).map String.toList := rfl
    rw [hchain, Text.intercalate_append (by simp) (by simp)]
    exact ⟨List.intercalate ['.'] ((more ++ [n.simple]).map String.toList) ++ ['.'],
      by simp [topLevelIn]⟩

end QualifiedName

namespace Imports
open Text QualifiedName

/-! ## Simple names -/

/-- What stands behind the last dot of a name. -/
def simpleName (name : String) : String :=
  String.ofList (name.toList.reverse.takeWhile (· ≠ '.')).reverse

theorem simpleName_qualify {simple : String} (h : '.' ∉ simple.toList) (package : String) :
    simpleName (qualify package simple) = simple := by
  have hsimple : ∀ c ∈ simple.toList.reverse, decide (c ≠ '.') = true := by
    intro c hc
    rw [decide_eq_true_eq]
    rintro rfl
    exact h (List.mem_reverse.1 hc)
  have hdot : ".".toList = ['.'] := rfl
  -- Read from its end, the name is passed over up to the dot in front of its last part.
  have htake : (simple.toList.reverse ++ []).takeWhile (· ≠ '.') = simple.toList.reverse ++ [] :=
    List.takeWhile_append_of_pos hsimple
  rw [simpleName, qualify]
  split
  · rw [List.append_nil] at htake
    rw [htake, List.reverse_reverse, String.ofList_toList]
  · rw [String.toList_append, String.toList_append, hdot, List.reverse_append, List.reverse_append,
      List.takeWhile_append_of_pos hsimple, List.reverse_singleton, List.singleton_append,
      List.takeWhile_cons_of_neg (by simp), List.append_nil, List.reverse_reverse,
      String.ofList_toList]

/-! ## Mentions -/

theorem mentionsBehind_append {mark : List Char} (hne : mark ≠ []) {c : Char}
    (hc : mayPrecede c = true) {rest : List Char} (hend : endsWord mark rest = true)
    (before : Option Char) (front : List Char) :
    mentionsBehind mark before (front ++ c :: (mark ++ rest)) = true := by
  induction front generalizing before with
  | nil =>
    -- What is looked for starts right behind the character.
    have hhere : mentionsBehind mark (some c) (mark ++ rest) = true := by
      obtain ⟨m, ms, rfl⟩ := List.exists_cons_of_ne_nil hne
      have hafter : after? (m :: ms) (m :: (ms ++ rest)) = some rest := after?_eq_some_iff.2 rfl
      rw [List.cons_append, mentionsBehind, hafter]
      simp [hc, hend]
    rw [List.nil_append, mentionsBehind, hhere, Bool.or_true]
  | cons d front ih => rw [List.cons_append, mentionsBehind, ih, Bool.or_true]

theorem mentions_of_eq {text mark : String} {front rest : List Char} {c : Char}
    (h : text.toList = front ++ c :: (mark.toList ++ rest)) (hc : mayPrecede c = true)
    (hne : mark.toList ≠ []) (hend : endsWord mark.toList rest = true) :
    mentions text mark = true := by
  rw [mentions, h]
  exact mentionsBehind_append hne hc hend none front

/-! ## Helper classes -/

/-- What tells that a text uses the helper classes, by their simple names. -/
def marks : List (String × String) := [
  ("AbstractObjectAssert", "AbstractObjectAssert"),
  ("AbstractComparableAssert", "AbstractComparableAssert"),
  ("Assertions.", "Assertions"), ("Objects.", "Objects"), ("Iterables.", "Iterables"),
  ("ObjectArrays.", "ObjectArrays"), ("FieldSupport.", "FieldSupport"), ("Offset", "Offset")]

theorem map_helpers : helpers.map (fun h => (h.1, simpleName h.2)) = marks := by decide

/-- A text uses a helper class if it has its simple name, for some of them with a dot behind it;
    those are no assertion classes. -/
theorem helpers_spec {h : String × String} (hh : h ∈ helpers) :
    (h.1 = simpleName h.2 ∨
      h.1 = simpleName h.2 ++ "." ∧ ¬ "Assert".toList <:+ (simpleName h.2).toList) ∧
      (simpleName h.2).toList ≠ [] := by
  have hall : (marks.all fun e => (decide (e.1 = e.2) ||
      decide (e.1 = e.2 ++ ".") && !"Assert".toList.isSuffixOf e.2.toList) &&
        !e.2.toList.isEmpty) = true := by decide
  have hmark : (h.1, simpleName h.2) ∈ marks := map_helpers ▸ List.mem_map_of_mem hh
  have hspec := List.all_eq_true.1 hall _ hmark
  simpa [← List.isSuffixOf_iff_suffix] using hspec

/-- No two helper classes have the same simple name. -/
theorem eq_of_simpleName_eq {h h' : String × String} (hh : h ∈ helpers) (hh' : h' ∈ helpers)
    (heq : simpleName h.2 = simpleName h'.2) : h = h' := by
  have hnodup : ((helpers.map fun h => (h.1, simpleName h.2)).map (·.2)).Nodup := by
    rw [map_helpers]
    decide
  rw [List.map_map] at hnodup
  exact List.inj_on_of_nodup_map hnodup hh hh' heq

/-- The simple name of a helper class behind a blank counts as a use of it, if a dot follows, or
    for an assertion class the end of the word. -/
theorem mentions_of_simpleName {h : String × String} (hh : h ∈ helpers) {text : String} {d : Char}
    (hstands : ' ' :: ((simpleName h.2).toList ++ [d]) <:+: text.toList)
    (hd : isNameChar d = false) (hdot : d = '.' ∨ "Assert".toList <:+ (simpleName h.2).toList) :
    mentions text h.1 = true := by
  obtain ⟨front, rest, hstands⟩ := hstands
  have htext : text.toList = front ++ ' ' :: ((simpleName h.2).toList ++ d :: rest) := by
    rw [← hstands]
    simp
  have hblank : mayPrecede ' ' = true := by decide
  obtain ⟨hmark | ⟨hmark, hassert⟩, hne⟩ := helpers_spec hh
  · -- The mark is the name itself, which the character behind it ends.
    rw [hmark]
    exact mentions_of_eq htext hblank hne (by simp [endsWord, hd])
  · -- The mark has the dot too, and behind a dot a word has ended whatever follows.
    obtain rfl := hdot.resolve_right hassert
    have hlast : ".".toList = ['.'] := rfl
    have hdotted : text.toList = front ++ ' ' :: (h.1.toList ++ rest) := by
      rw [hmark, htext, String.toList_append, hlast]
      simp
    refine mentions_of_eq hdotted hblank ?_ ?_
    · rw [hmark, String.toList_append, hlast]
      simp
    · rw [hmark, endsWord, String.toList_append, hlast]
      simp [hd]

/-! ## Names that are taken -/

/-- The names of the helper classes that a source in a package has to import to use them. -/
def helpersFor (package : String) : List String :=
  helpers.filterMap fun h => (empty package).needed? h.2

theorem mem_helpersFor {package name : String} :
    name ∈ helpersFor package ↔ ∃ h ∈ helpers, name ∈ (empty package).needed? h.2 :=
  List.mem_filterMap

/-- In a source about a type that declares a class, no two imports have the same simple name, and
    none but that of the type itself has the name of the type or the class. -/
structure NamesApart (subject : QualifiedName) (declared : String) (names : List String) :
    Prop where
  distinct : (names.map simpleName).Nodup
  free : ∀ name ∈ names, name ≠ subject.outermost.qualified →
    simpleName name ≠ subject.outermost.simple ∧ simpleName name ≠ declared

instance (subject : QualifiedName) (declared : String) (names : List String) :
    Decidable (NamesApart subject declared names) :=
  decidable_of_iff ((names.map simpleName).Nodup ∧ ∀ name ∈ names,
    name ≠ subject.outermost.qualified →
      simpleName name ≠ subject.outermost.simple ∧ simpleName name ≠ declared)
    ⟨fun h => ⟨h.1, h.2⟩, fun h => ⟨h.1, h.2⟩⟩

/-- Neither a helper class nor the superclass, if they are to be imported, has the name of the
    type or the class, and the superclass has not the name of another helper class. -/
structure CapturesNothing (package : String) (subject : QualifiedName) (declared : String)
    (superclass : Option String) : Prop where
  free : ∀ name ∈ helpersFor package ++ superclass.toList, name ≠ subject.outermost.qualified →
    simpleName name ≠ subject.outermost.simple ∧ simpleName name ≠ declared
  distinct : ∀ super ∈ superclass, ∀ helper ∈ helpersFor package,
    simpleName helper = simpleName super → helper = super

instance (package : String) (subject : QualifiedName) (declared : String)
    (superclass : Option String) :
    Decidable (CapturesNothing package subject declared superclass) :=
  decidable_of_iff ((∀ name ∈ helpersFor package ++ superclass.toList,
      name ≠ subject.outermost.qualified →
        simpleName name ≠ subject.outermost.simple ∧ simpleName name ≠ declared) ∧
    ∀ super ∈ superclass, ∀ helper ∈ helpersFor package,
      simpleName helper = simpleName super → helper = super)
    ⟨fun h => ⟨h.1, h.2⟩, fun h => ⟨h.1, h.2⟩⟩

variable {package declared : String} {subject : QualifiedName} {superclass : Option String}
  {names : List String}

/-- What may be imported captures no name if what is imported captures none, as long as nothing
    that could do so is left out. -/
theorem NamesApart.capturesNothing (h : NamesApart subject declared names)
    (hsuper : ∀ super ∈ superclass, super ∈ names)
    (hhelper : ∀ helper ∈ helpersFor package, (simpleName helper = subject.outermost.simple ∨
      simpleName helper = declared ∨ ∃ super ∈ superclass, simpleName helper = simpleName super) →
        helper ∈ names) : CapturesNothing package subject declared superclass where
  free name hname hne := by
    -- A name that captures something is among the imports, since nothing such is left out.
    have himported : simpleName name = subject.outermost.simple ∨ simpleName name = declared →
        name ∈ names := by
      intro htaken
      rcases List.mem_append.1 hname with hname | hname
      · exact hhelper name hname (htaken.imp_right .inl)
      · exact hsuper name (Option.mem_toList.1 hname)
    constructor
    · intro htop
      exact (h.free name (himported (.inl htop)) hne).1 htop
    · intro hdeclared
      exact (h.free name (himported (.inr hdeclared)) hne).2 hdeclared
  distinct super hs helper hh heq :=
    List.inj_on_of_nodup_map h.distinct (hhelper helper hh (.inr (.inr ⟨super, hs, heq⟩)))
      (hsuper super hs) heq

theorem eq_of_mem_helpersFor {a b : String} (ha : a ∈ helpersFor package)
    (hb : b ∈ helpersFor package) (heq : simpleName a = simpleName b) : a = b := by
  obtain ⟨h, hh, hneeded⟩ := mem_helpersFor.1 ha
  obtain ⟨h', hh', hneeded'⟩ := mem_helpersFor.1 hb
  obtain rfl := eq_of_mem_needed? hneeded
  obtain rfl := eq_of_mem_needed? hneeded'
  rw [eq_of_simpleName_eq hh hh' heq]

theorem CapturesNothing.eq_of_simpleName_eq
    (h : CapturesNothing package subject declared superclass) {a b : String}
    (ha : a ∈ helpersFor package ++ superclass.toList)
    (hb : b ∈ helpersFor package ++ superclass.toList) (heq : simpleName a = simpleName b) :
    a = b := by
  rw [List.mem_append, Option.mem_toList] at ha hb
  rcases ha with ha | ha
  · rcases hb with hb | hb
    · exact eq_of_mem_helpersFor ha hb heq
    · exact h.distinct b hb a ha heq
  · rcases hb with hb | hb
    · exact (h.distinct a ha b hb heq.symm).symm
    · exact Option.mem_unique ha hb

theorem CapturesNothing.eq_qualified (h : CapturesNothing package subject declared superclass)
    {name : String} (hname : name ∈ helpersFor package ++ superclass.toList)
    (htop : simpleName name = subject.outermost.simple) : name = subject.outermost.qualified := by
  by_cases hne : name = subject.outermost.qualified
  · exact hne
  · exact absurd htop (h.free name hname hne).1

theorem CapturesNothing.namesApart (h : CapturesNothing package subject declared superclass)
    (hnodup : names.Nodup) (hsubject : '.' ∉ subject.outermost.simple.toList)
    (hmay : ∀ name ∈ names, name = subject.outermost.qualified ∨
      name ∈ helpersFor package ++ superclass.toList) : NamesApart subject declared names where
  distinct := by
    have hown : simpleName subject.outermost.qualified = subject.outermost.simple := by
      rw [qualified, outerQualified_outermost, simpleName_qualify hsubject]
    -- Whichever two of the type, the helper classes and the superclass these are.
    refine hnodup.map_on fun a ha b hb heq => ?_
    rcases hmay a ha with rfl | ha
    · rcases hmay b hb with rfl | hb
      · rfl
      · exact (h.eq_qualified hb (heq.symm.trans hown)).symm
    · rcases hmay b hb with rfl | hb
      · exact h.eq_qualified ha (heq.trans hown)
      · exact h.eq_of_simpleName_eq ha hb heq
  free name hname hne := h.free name ((hmay name hname).resolve_left hne) hne

/-- If the helper classes with one of these names are used, whichever others are, then the imports
    of a source are apart just if none that it may need captures a name. -/
theorem namesApart_iff {used : String × String → Prop} (hnodup : names.Nodup)
    (hmem : ∀ name, name ∈ names ↔ name ∈ (empty package).neededFor? subject ∨
      (∃ h ∈ helpers, used h ∧ name ∈ (empty package).needed? h.2) ∨ name ∈ superclass)
    (hsubject : '.' ∉ subject.outermost.simple.toList)
    (hused : ∀ h ∈ helpers, (simpleName h.2 = subject.outermost.simple ∨
      simpleName h.2 = declared ∨ ∃ super ∈ superclass, simpleName h.2 = simpleName super) →
        used h) :
    NamesApart subject declared names ↔ CapturesNothing package subject declared superclass := by
  constructor
  · -- A helper class that could capture a name is used, and so it is imported.
    refine fun hapart => hapart.capturesNothing (fun super h => (hmem super).2 (.inr (.inr h))) ?_
    intro name hname htaken
    obtain ⟨h, hh, hneeded⟩ := mem_helpersFor.1 hname
    rw [eq_of_mem_needed? hneeded] at htaken
    exact (hmem name).2 (.inr (.inl ⟨h, hh, hused h hh htaken, hneeded⟩))
  · -- Whatever is imported is one of the names that may be.
    refine fun hfree => hfree.namesApart hnodup hsubject fun name hname => ?_
    rw [List.mem_append, Option.mem_toList]
    refine ((hmem name).1 hname).imp (fun hneeded => ?_) (Or.imp_left ?_)
    · rw [neededFor?] at hneeded
      split at hneeded
      · exact absurd hneeded (by simp)
      · exact (Option.some.inj hneeded).symm
    · rintro ⟨h, hh, -, hneeded⟩
      exact mem_helpersFor.2 ⟨h, hh, hneeded⟩

end Imports

namespace Template
open Text

/-! ## Lines that name the type and the class -/

theorem infix_joined_segments {l : Layout} {line : Line} (h : line ∈ l) :
    joined line <:+: joined l.segments := by
  obtain ⟨front, back, rfl⟩ := List.append_of_mem h
  rw [Layout.segments_append, Layout.segments_cons, joined_append, joined_append]
  exact ⟨_, _, by rw [List.append_assoc]⟩

/-- The line of the documentation of the constructor that names the class and the type. -/
def ClassLayout.creationLine : Line := [
  "   * Creates a new <code>\x7b@link ", .hole .assertClass,
  "\x7d</code> to make assertions on actual ", .hole .subject, "."]

theorem ClassLayout.creationLine_mem {l : Layout} (h : l ∈ all) : creationLine ∈ l := by
  simp only [all, List.mem_cons, List.not_mem_nil, or_false] at h
  rcases h with rfl | rfl | rfl | rfl <;> decide

/-- In front of a class stands the declaration of its package alone. -/
theorem Frame.mem_inner {f : Frame} {line : Line} (h : line ∈ f.layout)
    (hpackage : line ≠ [.text "package ", .hole .package, .text ";"]) (hne : line ≠ []) :
    line ∈ f.inner := by
  rw [Frame.layout, List.mem_cons, List.mem_cons] at h
  exact (h.resolve_left hpackage).resolve_left hne

variable {value? : Hole → Option String} {name subject : String}

/-- The line has both names between a blank and a character that ends a word. -/
theorem ClassLayout.infix_creationLine (hname : value? .assertClass = some name)
    (hsubject : value? .subject = some subject) :
    ' ' :: (name.toList ++ ['\x7d']) <:+:
        joined (creationLine.map (Segment.fillBy value?)) ∧
      ' ' :: (subject.toList ++ ['.']) <:+:
        joined (creationLine.map (Segment.fillBy value?)) := by
  have hlead : "   * Creates a new <code>\x7b@link ".toList =
      "   * Creates a new <code>\x7b@link".toList ++ [' '] := by decide
  have htrail : "\x7d</code> to make assertions on actual ".toList =
      '\x7d' :: ("</code> to make assertions on actual".toList ++ [' ']) := by decide
  have hdot : ".".toList = ['.'] := rfl
  have hline : joined (creationLine.map (Segment.fillBy value?)) =
      "   * Creates a new <code>\x7b@link".toList ++ ' ' :: (name.toList ++
        '\x7d' :: ("</code> to make assertions on actual".toList ++
          ' ' :: (subject.toList ++ ['.']))) := by
    simp only [creationLine, List.map_cons, List.map_nil, Segment.fillBy, hname, hsubject,
      Option.elim_some, joined_cons, joined_nil, Segment.toText, hlead, htrail, hdot,
      List.append_assoc, List.cons_append, List.nil_append, List.append_nil]
  rw [hline]
  constructor
  · refine ⟨"   * Creates a new <code>\x7b@link".toList,
      "</code> to make assertions on actual".toList ++ ' ' :: (subject.toList ++ ['.']), ?_⟩
    simp only [List.append_assoc, List.cons_append, List.nil_append]
  · refine ⟨"   * Creates a new <code>\x7b@link".toList ++ ' ' :: (name.toList ++
      '\x7d' :: "</code> to make assertions on actual".toList), [], ?_⟩
    simp only [List.append_assoc, List.cons_append, List.append_nil]

/-- The declaration of an abstract class has its superclass before the type parameters of that. -/
theorem ClassLayout.infix_abstractDeclaration {super : String}
    (hname : value? .assertClass = some name) (hsubject : value? .subject = some subject)
    (hsuper : value? .superclass = some super) :
    ' ' :: (super.toList ++ ['<']) <:+:
      joined (abstractDeclaration.map (Segment.fillBy value?)) := by
  have hangle : "<S, A> \x7b".toList = '<' :: "S, A> \x7b".toList := by decide
  rw [joined_abstractDeclaration hname hsubject hsuper, hangle]
  refine ⟨"public abstract class ".toList ++ (name.toList ++ "<S extends ".toList ++
    name.toList ++ "<S, A>, A extends ".toList ++ subject.toList ++ "> extends".toList),
      "S, A> \x7b".toList, ?_⟩
  simp only [List.append_assoc, List.cons_append, List.nil_append]

end Template

namespace ClassWriter
open Template Text QualifiedName Imports

variable {w : ClassWriter} {s : Surface} {r : Role} {name : String} {entries : List (Hole × String)}
  {properties : List Property} {parentImport : Option String}

/-! ## Imports of a class -/

theorem mem_importsOf {text n : String} :
    n ∈ (w.importsOf s parentImport text).toList ↔
      n ∈ (Imports.empty (s.targetPackage w.package)).neededFor? s.subject ∨
        (∃ h ∈ helpers, mentions text h.1 = true ∧
          n ∈ (Imports.empty (s.targetPackage w.package)).needed? h.2) ∨
        n ∈ parentImport.bind (Imports.empty (s.targetPackage w.package)).needed? := by
  have hempty : n ∉ (Imports.empty (s.targetPackage w.package)).toList := List.not_mem_nil
  rw [importsOf]
  generalize Imports.empty (s.targetPackage w.package) = i at hempty ⊢
  -- The package stays, and whether a name is needed depends on nothing else.
  have htype : ∀ name, (i.addType s.subject).2.needed? name = i.needed? name :=
    needed?_eq (package_add _)
  have hhelpers : ∀ name, ((i.addType s.subject).2.addHelpers text).needed? name =
      i.needed? name :=
    needed?_eq ((package_addHelpers text).trans (package_add _))
  have hnames : n ∈ ((i.addType s.subject).2.addHelpers text).toList ↔
      n ∈ i.neededFor? s.subject ∨
        ∃ h ∈ helpers, mentions text h.1 = true ∧ n ∈ i.needed? h.2 := by
    simp only [mem_toList_addHelpers, htype]
    rw [addType, mem_toList_add, or_iff_left hempty]
  cases parentImport with
  | none => rw [Option.elim_none, hnames, Option.bind_none]; simp
  | some name =>
    rw [Option.elim_some, mem_toList_addName, hnames, hhelpers, Option.bind_some, or_comm, or_assoc]

theorem ne_empty_of_assert_suffix (h : "Assert".toList <:+ name.toList) : name ≠ "" := by
  rintro rfl
  exact absurd h (by decide)

/-- Each line of the frame but those that declare the package stands in the text of the class. -/
theorem IsDefault.infix_fill (hw : w.IsDefault) (hs : s.IsInline) (hr : r ∈ Role.ofClass)
    (hp : ∀ p ∈ properties, p.IsInline) (he : AreEntries r name entries) (hname : name ≠ "")
    (hchars : ∀ c ∈ name.toList, isNameChar c = true) {body : String}
    (h : w.body s r properties = .ok body) :
    ∀ line ∈ r.layoutFor s, line ≠ [.text "package ", .hole .package, .text ";"] → line ≠ [] →
      joined (line.map (Segment.fillBy (w.classFilling s entries).get?)) <:+:
        ((w.classFilling s entries).fill body).toList := by
  obtain ⟨body', f, hbody, hlayout, -, htext, -⟩ :=
    hw.exists_rendering hs hr hp he hname hchars inline_of_mem_none
  obtain rfl := Except.ok.inj (h.symm.trans hbody)
  intro line hline hpackage hne
  rw [← hlayout] at hline
  rw [htext]
  refine infix_joined_segments (List.mem_map_of_mem (List.mem_append_left _ ?_))
  split
  · exact Frame.mem_inner hline hpackage hne
  · exact hline

/-- A helper class with the name of the type or of the class is used in the documentation. -/
theorem IsDefault.mentions_of_taken (hw : w.IsDefault) (hs : s.IsInline) (hr : r ∈ Role.ofClass)
    (hp : ∀ p ∈ properties, p.IsInline) (he : AreEntries r name entries)
    (hsubject : entries.reverse.lookup .subject = none)
    (hname : "Assert".toList <:+ name.toList) (hchars : ∀ c ∈ name.toList, isNameChar c = true)
    {body : String} (h : w.body s r properties = .ok body) {helper : String × String}
    (hhelper : helper ∈ helpers) (htaken : simpleName helper.2 = s.subject.outermost.simple ∨
      simpleName helper.2 = name) :
    mentions ((w.classFilling s entries).fill body) helper.1 = true := by
  have hne := ne_empty_of_assert_suffix hname
  have hlines := hw.infix_fill hs hr hp he hne hchars h
  have hvalue : (w.classFilling s entries).get? .subject = some s.subject.outerQualified := by
    rw [get?_classFilling, hsubject]
    rfl
  have hline := hlines ClassLayout.creationLine
    (ClassLayout.creationLine_mem (layoutFor_mem_all hr s)) (by decide) (by decide)
  obtain ⟨hdeclaredIn, hsubjectIn⟩ := ClassLayout.infix_creationLine he.get?_assertClass hvalue
  have hend : isNameChar '.' = false ∧ isNameChar '\x7d' = false := by decide
  rcases htaken with htop | hdeclared
  · -- Behind the name of the type comes a dot, of its nesting or at the end of the sentence.
    obtain ⟨rest, hrest⟩ := s.subject.exists_outerQualified_append_dot
    have htype : ' ' :: ((simpleName helper.2).toList ++ ['.']) <:+:
        ' ' :: (s.subject.outerQualified.toList ++ ['.']) := by
      rw [hrest, htop]
      exact ⟨[], rest, by simp⟩
    exact mentions_of_simpleName hhelper (htype.trans (hsubjectIn.trans hline)) hend.1 (.inl rfl)
  · rw [← hdeclared] at hdeclaredIn hname
    exact mentions_of_simpleName hhelper (hdeclaredIn.trans hline) hend.2 (.inr hname)

/-- The imports of a class are apart just if none that it may need captures a name. -/
theorem IsDefault.namesApart_complete_iff (hw : w.IsDefault) (hs : s.IsInline)
    (hn : s.subject.WellFormed) (hr : r ∈ Role.ofClass) (hp : ∀ p ∈ properties, p.IsInline)
    (he : AreEntries r name entries) (hsubject : entries.reverse.lookup .subject = none)
    (hname : "Assert".toList <:+ name.toList) (hchars : ∀ c ∈ name.toList, isNameChar c = true)
    (hparent : ∀ name ∈ parentImport, Inline name) {body : String}
    (h : w.body s r properties = .ok body)
    (hsuper : ∀ super ∈ parentImport, ∀ helper ∈ helpers,
      simpleName helper.2 = simpleName super →
        mentions ((w.classFilling s entries).fill body) helper.1 = true) :
    NamesApart s.subject name (importsIn (w.complete s entries parentImport body)) ↔
      CapturesNothing (s.targetPackage w.package) s.subject name
        (parentImport.bind (Imports.empty (s.targetPackage w.package)).needed?) := by
  have hne := ne_empty_of_assert_suffix hname
  rw [hw.importsIn_complete hs hr hp he hne hchars hparent h]
  refine namesApart_iff (NameMap.nodup_keys _) (fun n => mem_importsOf) hn.dot_not_mem_outermost ?_
  intro helper hhelper
  rintro (htop | hdeclared | ⟨super, hmem, heq⟩)
  · exact hw.mentions_of_taken hs hr hp he hsubject hname hchars h hhelper (.inl htop)
  · exact hw.mentions_of_taken hs hr hp he hsubject hname hchars h hhelper (.inr hdeclared)
  · -- What is needed of the superclass is its whole name.
    obtain ⟨n, hn, hneeded⟩ := Option.bind_eq_some_iff.1 hmem
    rw [eq_of_mem_needed? hneeded] at heq
    exact hsuper n hn helper hhelper heq

/-! ## Sources -/

theorem assert_suffix_assertClass (s : Surface) :
    "Assert".toList <:+ s.assertClass.toList ∧
      "Assert".toList <:+ s.abstractAssertClass.toList := by
  rw [Surface.abstractAssertClass, Naming.abstractAssertClass, Surface.assertClass,
    Naming.assertClass, String.toList_append, String.toList_append, String.toList_append,
    ← List.append_assoc]
  exact ⟨List.suffix_append _ _, List.suffix_append _ _⟩

/-- Without properties only the names of the types count. -/
theorem isInline_of_properties_eq_nil (hn : s.subject.WellFormed)
    (hparent : ∀ parent ∈ s.parent, parent.WellFormed)
    (hnil : s.properties = [] ∧ s.declaredProperties = []) : s.IsInline where
  subject := hn.isInline
  parent n h := (hparent n h).isInline
  properties _ h := absurd (hnil.1 ▸ h) List.not_mem_nil
  declaredProperties _ h := absurd (hnil.2 ▸ h) List.not_mem_nil

/-- A class that is given no name to import for its superclass. -/
theorem IsDefault.namesApart_concrete_iff (hw : w.IsDefault) (hs : s.IsInline)
    (hn : s.subject.WellFormed) (hr : r ∈ Role.ofClass) (hne : r ≠ .abstractAssertClass)
    (hp : ∀ p ∈ properties, p.IsInline) {body : String} (h : w.body s r properties = .ok body) :
    NamesApart s.subject s.assertClass
        (importsIn (w.complete s (concreteEntries s) none body)) ↔
      CapturesNothing (s.targetPackage w.package) s.subject s.assertClass none := by
  exact hw.namesApart_complete_iff hs hn hr hp (areEntries_concrete hs hne) rfl
    (assert_suffix_assertClass s).1 (isNameChar_assertClass hn) inline_of_mem_none h
    fun super hsuper => absurd hsuper (by simp)

theorem IsDefault.namesApart_flat_iff (hw : w.IsDefault) (hs : s.IsInline)
    (hn : s.subject.WellFormed) {text : String} (h : w.flat s = .ok text) :
    NamesApart s.subject s.assertClass (importsIn text) ↔
      CapturesNothing (s.targetPackage w.package) s.subject s.assertClass none := by
  obtain ⟨body, hbody, h⟩ := bind_eq_ok_iff.1 h
  obtain rfl := Except.ok.inj h
  exact hw.namesApart_concrete_iff hs hn (by decide) (by decide) hs.properties hbody

variable {batch : List QualifiedName}

/-- The qualified name of the superclass, if the abstract class has to import it. -/
def superclassImport (w : ClassWriter) (s : Surface) (batch : List QualifiedName) :
    Option String :=
  (w.superclass s batch).2.bind (Imports.empty (s.targetPackage w.package)).needed?

/-- What is imported for the superclass is the superclass. -/
theorem simpleName_superclass (hparent : ∀ parent ∈ s.parent, parent.WellFormed) {super : String}
    (h : super ∈ (w.superclass s batch).2) :
    simpleName super = (w.superclass s batch).1 ∧
      "Assert".toList <:+ (w.superclass s batch).1.toList := by
  rw [superclass] at h ⊢
  split at h
  · next parent hfilter =>
    have hwell := hparent parent (Option.filter_eq_some_iff.1 hfilter).1
    have hdot : '.' ∉ (Naming.abstractAssertClass parent).toList := by
      intro hmem
      have hchar := isNameChar_abstractAssertClass (s := .bare parent) hwell '.' hmem
      exact absurd hchar (by decide)
    obtain rfl := Option.some.inj h
    exact ⟨simpleName_qualify hdot _, (assert_suffix_assertClass (.bare parent)).2⟩
  · exact absurd h (by simp)

/-- An abstract class names its superclass where it is declared. -/
theorem IsDefault.namesApart_abstract_iff (hw : w.IsDefault) (hs : s.IsInline)
    (hn : s.subject.WellFormed) (hparent : ∀ parent ∈ s.parent, parent.WellFormed) {body : String}
    (h : w.body s .abstractAssertClass s.declaredProperties = .ok body) :
    NamesApart s.subject s.abstractAssertClass
        (importsIn (w.complete s [(.assertClass, s.abstractAssertClass),
          (.superclass, (w.superclass s batch).1), (.selfType, "S"), (.self, "myself")]
          (w.superclass s batch).2 body)) ↔
      CapturesNothing (s.targetPackage w.package) s.subject s.abstractAssertClass
        (w.superclassImport s batch) := by
  obtain ⟨hinline, himport⟩ := hw.inline_superclass hs batch
  have he := areEntries_abstract hs hinline
  have hchars := isNameChar_abstractAssertClass hn
  have hname := (assert_suffix_assertClass s).2
  have hr : Role.abstractAssertClass ∈ Role.ofClass := by decide
  refine hw.namesApart_complete_iff hs hn hr hs.declaredProperties he rfl hname hchars himport h
    fun super hsuper helper hhelper heq => ?_
  obtain ⟨hsimple, hassert⟩ := simpleName_superclass hparent hsuper
  have hne := ne_empty_of_assert_suffix hname
  have hlines := hw.infix_fill hs hr hs.declaredProperties he hne hchars h
  rw [Role.layoutFor_of_ne (by decide)] at hlines
  -- A helper class with the name of the superclass stands behind "extends".
  have hline := hlines ClassLayout.abstractDeclaration
    ClassLayout.abstractDeclaration_mem (by decide) (by decide)
  have hvalues := get?_classFilling w s [(.assertClass, s.abstractAssertClass),
    (.superclass, (w.superclass s batch).1), (.selfType, "S"), (.self, "myself")]
  have hextends := (ClassLayout.infix_abstractDeclaration he.get?_assertClass (hvalues .subject)
    (hvalues .superclass)).trans hline
  rw [← hsimple, ← heq] at hassert
  have hangle : isNameChar '<' = false := by decide
  refine mentions_of_simpleName hhelper ?_ hangle (.inr hassert)
  rw [heq, hsimple]
  exact hextends

/-- The sources of the classes for a type import only names that are apart exactly if no helper
    class, and no superclass, captures the name of the type or of the class. -/
theorem IsDefault.namesApart_sources_iff (hw : w.IsDefault) (hs : s.IsInline)
    (hn : s.subject.WellFormed) (hparent : ∀ parent ∈ s.parent, parent.WellFormed)
    (batch : List QualifiedName) :
    ∃ text pair, w.flat s = .ok text ∧ w.hierarchical s batch = .ok pair ∧
      (NamesApart s.subject s.assertClass (importsIn text) ↔
        CapturesNothing (s.targetPackage w.package) s.subject s.assertClass none) ∧
      (NamesApart s.subject s.abstractAssertClass (importsIn pair.abstractSource) ↔
        CapturesNothing (s.targetPackage w.package) s.subject s.abstractAssertClass
          (w.superclassImport s batch)) ∧
      (NamesApart s.subject s.assertClass (importsIn pair.concreteSource) ↔
        CapturesNothing (s.targetPackage w.package) s.subject s.assertClass none) := by
  obtain ⟨text, hflat, -⟩ := hw.flat_eq_ok hs hn
  obtain ⟨pair, hpair, -⟩ := hw.hierarchical_eq_ok hs hn batch
  refine ⟨text, pair, hflat, hpair, hw.namesApart_flat_iff hs hn hflat, ?_⟩
  obtain ⟨body, hbody, hrest⟩ := bind_eq_ok_iff.1 hpair
  obtain ⟨body', hbody', hrest⟩ := bind_eq_ok_iff.1 hrest
  obtain rfl := Except.ok.inj hrest
  exact ⟨hw.namesApart_abstract_iff hs hn hparent hbody,
    hw.namesApart_concrete_iff hs hn (by decide) (by decide) isInline_of_mem_nil hbody'⟩

/-- A class whose parent is in another package. -/
def coach : Surface :=
  { Surface.bare ⟨"com.acme.team", [], "Coach"⟩ with parent := some ⟨"com.acme", [], "Person"⟩ }

theorem namesApart_sources_iff_coach :
    (⟨.default, none⟩ : ClassWriter).IsDefault ∧ coach.IsInline ∧ coach.subject.WellFormed ∧
      (∀ parent ∈ coach.parent, parent.WellFormed) ∧
      ∃ text pair, (⟨.default, none⟩ : ClassWriter).flat coach = .ok text ∧
        (⟨.default, none⟩ : ClassWriter).hierarchical coach coach.parent.toList = .ok pair ∧
        NamesApart coach.subject "CoachAssert" (importsIn text) ∧
        NamesApart coach.subject "AbstractCoachAssert" (importsIn pair.abstractSource) ∧
        NamesApart coach.subject "CoachAssert" (importsIn pair.concreteSource) := by
  have hw : (⟨.default, none⟩ : ClassWriter).IsDefault := ⟨rfl, fun _ h => absurd h (by simp)⟩
  have hread : parse? "com.acme.team.Coach" = some coach.subject ∧
      parse? "com.acme.Person" = coach.parent := by decide
  have hn : coach.subject.WellFormed := wellFormed_of_parse? hread.1
  have hparent : ∀ parent ∈ coach.parent, parent.WellFormed :=
    fun parent h => wellFormed_of_parse? (hread.2.trans h)
  have hs : coach.IsInline := isInline_of_properties_eq_nil hn hparent (by decide)
  have hflat : CapturesNothing "com.acme.team" coach.subject "CoachAssert" none := by
    decide
  have habstract : CapturesNothing "com.acme.team" coach.subject "AbstractCoachAssert"
      (superclassImport ⟨.default, none⟩ coach coach.parent.toList) := by decide
  obtain ⟨text, pair, htext, hpair, hiff, habstractIff, hconcreteIff⟩ :=
    hw.namesApart_sources_iff hs hn hparent coach.parent.toList
  exact ⟨hw, hs, hn, hparent, text, pair, htext, hpair, hiff.2 hflat, habstractIff.2 habstract,
    hconcreteIff.2 hflat⟩

/-- A class with the name of a helper class. -/
def offset : TypeDecl where
  name := ⟨"com.acme", [], "Offset"⟩

/-- The assertion class for it mentions the type, and imports the helper class for that. -/
theorem exists_flat_not_namesApart :
    ∃ s text, Surface.describe (.ofList [offset]) {} offset.name = .ok s ∧
      (⟨.default, none⟩ : ClassWriter).flat s = .ok text ∧
      ¬ NamesApart s.subject s.assertClass (importsIn text) := by
  have hw : (⟨.default, none⟩ : ClassWriter).IsDefault := ⟨rfl, fun _ h => absurd h (by simp)⟩
  have hread : parse? "com.acme.Offset" = some offset.name := by decide
  have hn : offset.name.WellFormed := wellFormed_of_parse? hread
  have hfind : (Catalog.ofList [offset]).find? offset.name = some offset := by decide
  have hparent : (Surface.ofDeclaration (.ofList [offset]) {} offset).parent = none := by
    decide
  have hs : (Surface.ofDeclaration (.ofList [offset]) {} offset).IsInline :=
    isInline_of_properties_eq_nil hn (by simp [hparent]) (by decide +kernel)
  obtain ⟨text, htext, -⟩ := hw.flat_eq_ok hs hn
  refine ⟨_, text, Surface.describe_eq_ok_iff.2 ⟨offset, hfind, rfl, rfl⟩, htext, ?_⟩
  rw [hw.namesApart_flat_iff hs hn htext]
  decide

end ClassWriter
end AssertionWriter
