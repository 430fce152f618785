/-
  AssertionWriter.Proofs.AssertionClass.HelperClasses

  A class imports the helper classes that it uses. What a template writes to use one is a
  run of texts without a hole in it, so it stands in the source as it is, whatever the
  values around it are; and in such a run the name is set apart from what it stands
  between, so that it is found there.
-/
import Mathlib.Data.List.TakeWhile
import AssertionWriter.Proofs.AssertionClass.Captures
import AssertionWriter.Proofs.Generation.Sources

namespace AssertionWriter

namespace Imports
open Text QualifiedName

/-! ## Mentions -/

/-- A name between two characters that set it apart is mentioned. -/
theorem mentions_of_infix {text mark : String} {c d : Char}
    (h : c :: (mark.toList ++ [d]) <:+: text.toList) (hc : mayPrecede c = true)
    (hne : mark.toList ≠ []) (hd : endsWord mark.toList [d] = true) :
    mentions text mark = true := by
  obtain ⟨front, rest, h⟩ := h
  have htext : text.toList = front ++ c :: (mark.toList ++ d :: rest) := by
    rw [← h]
    simp
  -- Of what stands behind the name only the first character matters.
  have hend : endsWord mark.toList (d :: rest) = true := hd
  exact mentions_of_eq htext hc hne hend

/-- Texts that a name may follow end in one of these characters. -/
theorem mayPrecede_of_mem {c : Char} (h : c ∈ [' ', '!', '(']) : mayPrecede c = true := by
  simp only [List.mem_cons, List.not_mem_nil, or_false] at h
  rcases h with rfl | rfl | rfl <;> decide

/-- Behind a dot a word has ended, whatever follows. -/
theorem endsWord_append_dot (name rest : List Char) : endsWord (name ++ ['.']) rest = true := by
  have hdot : isNameChar '.' = false := by decide
  simp [endsWord, hdot]

theorem mark_ne_nil {h : String × String} (hh : h ∈ helpers) : h.1.toList ≠ [] := by
  have hall : ∀ h ∈ helpers, h.1.toList ≠ [] := by decide
  exact hall h hh

/-- The package of a name is what stands in front of its last dot. -/
theorem packageOf?_eq_some_iff {name package : String} :
    packageOf? name = some package ↔
      ∃ simple : String, '.' ∉ simple.toList ∧ name = package ++ "." ++ simple := by
  have hdot : ".".toList = ['.'] := rfl
  constructor
  · intro h
    have hsplit := List.takeWhile_append_dropWhile (p := (· ≠ '.')) (l := name.toList.reverse)
    have hlast : ∀ d rest, name.toList.reverse.dropWhile (· ≠ '.') = d :: rest → d = '.' := by
      intro d rest hdrop
      have hhead := List.head?_dropWhile_not (· ≠ '.') name.toList.reverse
      rw [hdrop] at hhead
      simpa using hhead
    rw [packageOf?] at h
    split at h
    · cases h
    · next d reversed hdrop =>
      obtain rfl := Option.some.inj h
      rw [hdrop, hlast d reversed hdrop] at hsplit
      refine ⟨simpleName name, fun hmem => ?_, String.toList_inj.1 ?_⟩
      · rw [simpleName, String.toList_ofList, List.mem_reverse] at hmem
        simpa using List.mem_takeWhile_imp hmem
      · have hname := congrArg List.reverse hsplit.symm
        rw [List.reverse_reverse] at hname
        rw [hname, simpleName]
        simp [hdot]
  · rintro ⟨simple, hsimple, rfl⟩
    have hbehind : ∀ c ∈ simple.toList.reverse, decide (c ≠ '.') = true := by
      intro c hc
      rw [decide_eq_true_eq]
      rintro rfl
      exact hsimple (List.mem_reverse.1 hc)
    -- Read from its end, the name is dropped up to the dot in front of its last part.
    have hdrop : (package ++ "." ++ simple).toList.reverse.dropWhile (· ≠ '.') =
        '.' :: package.toList.reverse := by
      rw [String.toList_append, String.toList_append, hdot, List.reverse_append,
        List.reverse_append, List.dropWhile_append_of_pos hbehind]
      simp
    rw [packageOf?, hdrop]
    simp

theorem packageOf?_qualify {package simple : String} (hpackage : package ≠ "")
    (h : '.' ∉ simple.toList) : packageOf? (qualify package simple) = some package := by
  have hempty : package.isEmpty = false := by simpa using hpackage
  rw [packageOf?_eq_some_iff, qualify, hempty, if_neg Bool.false_ne_true]
  exact ⟨simple, h, rfl⟩

/-- What is imported for a type is named after its package, which is another one. -/
theorem eq_qualify_of_mem_neededFor? {i : Imports} {n : QualifiedName} {name : String}
    (h : name ∈ i.neededFor? n) :
    name = qualify n.package n.outermost.simple ∧ n.package ≠ i.package ∧
      n.package ≠ builtInPackage ∧ n.package ≠ "" := by
  rw [neededFor?] at h
  split at h
  · exact absurd h (by simp)
  · next hout =>
    obtain rfl := Option.some.inj h
    simp only [Bool.or_eq_true, decide_eq_true_eq, not_or, String.isEmpty_iff] at hout
    obtain ⟨⟨hbuiltIn, hpackage⟩, hne⟩ := hout
    have houter : n.outermost.package = n.package := by
      rw [outermost]
      split <;> rfl
    rw [qualified, outerQualified_outermost, houter]
    exact ⟨rfl, hne, fun heq => hbuiltIn (by simp [isBuiltIn, heq]), hpackage⟩

theorem packageOf?_ne_of_mem_neededFor? {i : Imports} {n : QualifiedName} (hn : n.WellFormed)
    {name : String} (h : name ∈ i.neededFor? n) : packageOf? name ≠ some i.package := by
  obtain ⟨rfl, hne, -, hpackage⟩ := eq_qualify_of_mem_neededFor? h
  rw [packageOf?_qualify hpackage hn.dot_not_mem_outermost]
  exact fun heq => hne (Option.some.inj heq)

/-- A helper class is needed in every package but its own. -/
theorem mem_needed?_iff_of_mem_helpers {i : Imports} {h : String × String} (hh : h ∈ helpers) :
    h.2 ∈ i.needed? h.2 ↔ packageOf? h.2 ≠ some i.package := by
  have hall : ∀ h ∈ helpers, packageOf? h.2 ≠ none ∧ packageOf? h.2 ≠ some builtInPackage := by
    decide
  obtain ⟨hnone, hbuiltIn⟩ := hall h hh
  obtain ⟨package, hpackage⟩ := Option.ne_none_iff_exists'.1 hnone
  have hbuiltIn : package ≠ builtInPackage := fun heq => hbuiltIn (hpackage.trans (congrArg _ heq))
  rw [needed?, hpackage, Option.bind_some]
  by_cases hown : package = i.package
  · simp [hown]
  · simp [hown, hbuiltIn]

end Imports

namespace Template
open Imports

/-- Whatever fills its holes, the line mentions the name: texts that stand next to each other hold
    it, between two characters that set it apart. -/
def Line.Mentions (line : Line) (mark : String) : Prop :=
  ∃ texts : List String, texts.map Segment.text <:+: line ∧
    ∃ c d : Char, c :: (mark.toList ++ [d]) <:+: texts.flatMap String.toList ∧
      mayPrecede c = true ∧ endsWord mark.toList [d] = true

/-- Some line of the template mentions the name. -/
def Layout.Mentions (l : Layout) (mark : String) : Prop := ∃ line ∈ l, line.Mentions mark

variable {line : Line} {l : Layout} {mark : String}

theorem Line.Mentions.fillBy (h : line.Mentions mark) (value? : Hole → Option String) :
    Line.Mentions (line.map (Segment.fillBy value?)) mark := by
  obtain ⟨texts, hin, hmark⟩ := h
  refine ⟨texts, ?_, hmark⟩
  have hmap := hin.map (Segment.fillBy value?)
  rwa [List.map_map] at hmap

theorem Layout.Mentions.fillBy (h : l.Mentions mark) (value? : Hole → Option String) :
    (l.fillBy value?).Mentions mark := by
  obtain ⟨line, hline, hmentions⟩ := h
  exact ⟨_, List.mem_map_of_mem hline, hmentions.fillBy value?⟩

theorem Layout.Mentions.blocks (h : l.Mentions mark) {parts : List Layout} (hl : l ∈ parts) :
    (blocks parts).Mentions mark := by
  obtain ⟨line, hline, hmentions⟩ := h
  exact ⟨line, List.mem_flatten.2 ⟨l, hl, hline⟩, hmentions⟩

/-- A text in which the line stands mentions the name. -/
theorem Line.Mentions.mentions (h : line.Mentions mark) (hne : mark.toList ≠ []) {text : String}
    (hline : joined line <:+: text.toList) : Imports.mentions text mark = true := by
  obtain ⟨texts, ⟨front, back, rfl⟩, c, d, hmark, hc, hd⟩ := h
  have htexts : joined (texts.map Segment.text) = texts.flatMap String.toList := by
    rw [joined, List.flatMap_map]
    rfl
  have hin : texts.flatMap String.toList <:+: joined (front ++ texts.map Segment.text ++ back) := by
    rw [joined_append, joined_append, htexts]
    exact ⟨_, _, rfl⟩
  exact mentions_of_infix (hmark.trans (hin.trans hline)) hc hne hd

/-! ## Methods that use helper classes -/

namespace PropertyLayout

theorem Method.mem_layout_of_mem_check {m : Method} (h : line ∈ m.check) : line ∈ m.layout := by
  simp [Method.layout, blocks, h]

/-- Values that may be null are compared by a helper class. -/
theorem mentions_objectEquality : objectEquality.layout.Mentions "Objects." := by
  have hcall : '!' :: ("Objects.".toList ++ ['a']) <:+:
      ["!Objects.areEqual(actual"].flatMap String.toList :=
    ⟨[], "reEqual(actual".toList, by decide⟩
  refine ⟨["    if (", "!Objects.areEqual(actual", .hole .propertyCapital, ", ",
    .hole .parameter, ")", ") \x7b"], Method.mem_layout_of_mem_check ?_, _, ?_, '!', 'a', hcall,
    mayPrecede_of_mem (by simp), endsWord_append_dot "Objects".toList _⟩
  · exact List.mem_of_getElem? (i := 5) rfl
  · exact ⟨["    if ("], _, rfl⟩

theorem mentions_closeness (shown : Line) (first : Layout) :
    (closeness shown first).layout.Mentions "Assertions." := by
  have hcall : ' ' :: ("Assertions.".toList ++ ['a']) <:+:
      ["    Assertions.assertThat(actual"].flatMap String.toList :=
    ⟨"   ".toList, "ssertThat(actual".toList, by decide⟩
  refine ⟨["    Assertions.assertThat(actual", .hole .propertyCapital,
    ").overridingErrorMessage(assertjErrorMessage).isCloseTo(", .hole .parameter,
    ", Assertions.within(assertjOffset));"], Method.mem_layout_of_mem_check ?_, _, ?_, ' ', 'a',
    hcall, mayPrecede_of_mem (by simp), endsWord_append_dot "Assertions".toList _⟩
  · simp [closeness, blocks]
  · exact ⟨[], _, rfl⟩

/-- Elements are looked at by the helper class of their container. -/
theorem mentions_containing (c : Container) :
    (containing c).layout.Mentions (c.helper ++ ".") := by
  have hdot : ".".toList = ['.'] := rfl
  have hcall : ' ' :: ((c.helper ++ ".").toList ++ ['i']) <:+:
      ["    ", c.helper, ".instance()."].flatMap String.toList :=
    ⟨"   ".toList, "nstance().".toList, by simp⟩
  have hend : endsWord (c.helper ++ ".").toList ['i'] = true := by
    rw [String.toList_append, hdot]
    exact endsWord_append_dot _ _
  refine ⟨["    ", c.helper, ".instance().", "assertContains", "(info, ", .hole .reading, ", ",
    .hole .parameter, ");"], Method.mem_layout_of_mem_check ?_, _, ?_, ' ', 'i', hcall,
    mayPrecede_of_mem (by simp), hend⟩
  · exact List.mem_of_getElem? (i := 4) rfl
  · exact ⟨[], _, rfl⟩

end PropertyLayout

/-- The helper classes that the templates of a role use, apart from the expression that reads the
    value. -/
def Role.helperClasses : Role → List String
  | has | hasForWholeNumberWrapper | hasForCharacter => ["org.assertj.core.util.Objects"]
  | hasForRealNumberWrapper =>
    ["org.assertj.core.util.Objects", "org.assertj.core.api.Assertions"]
  | hasForRealNumber => ["org.assertj.core.api.Assertions"]
  | hasForArray => ["org.assertj.core.internal.ObjectArrays"]
  | hasForIterable => ["org.assertj.core.internal.Iterables"]
  | _ => []

/-- The templates of a role mention each helper class that they use. -/
theorem Role.exists_mentions_layout {r : Role} {name : String} (h : name ∈ r.helperClasses) :
    ∃ mark, (mark, name) ∈ helpers ∧ r.layout.Mentions mark := by
  have hequality := PropertyLayout.mentions_objectEquality
  cases r
  case has | hasForWholeNumberWrapper | hasForCharacter =>
    obtain rfl := List.mem_singleton.1 h
    exact ⟨"Objects.", by decide, hequality⟩
  case hasForRealNumberWrapper =>
    rcases List.mem_cons.1 h with rfl | h
    · exact ⟨"Objects.", by decide, hequality.blocks (.head _)⟩
    · obtain rfl := List.mem_singleton.1 h
      exact ⟨"Assertions.", by decide,
        (PropertyLayout.mentions_closeness _ _).blocks (.tail _ (.head _))⟩
  case hasForRealNumber =>
    obtain rfl := List.mem_singleton.1 h
    exact ⟨"Assertions.", by decide,
      (PropertyLayout.mentions_closeness _ _).blocks (.tail _ (.head _))⟩
  case hasForArray =>
    obtain rfl := List.mem_singleton.1 h
    exact ⟨"ObjectArrays.", by decide,
      (PropertyLayout.mentions_containing PropertyLayout.arrays).blocks (.head _)⟩
  case hasForIterable =>
    obtain rfl := List.mem_singleton.1 h
    exact ⟨"Iterables.", by decide,
      (PropertyLayout.mentions_containing PropertyLayout.iterables).blocks (.head _)⟩
  all_goals exact absurd h List.not_mem_nil

/-! ## Where the value is read -/

/-- Some line of the template reads the value, right behind a text that a name may follow. -/
def Layout.Reads (l : Layout) : Prop :=
  ∃ line ∈ l, ∃ (t : String) (front : List Char) (c : Char),
    [.text t, .hole .reading] <:+: line ∧ t.toList = front ++ [c] ∧ mayPrecede c = true

theorem Layout.Reads.blocks (h : l.Reads) {parts : List Layout} (hl : l ∈ parts) :
    (blocks parts).Reads := by
  obtain ⟨line, hline, hreads⟩ := h
  exact ⟨line, List.mem_flatten.2 ⟨l, hl, hline⟩, hreads⟩

namespace PropertyLayout

theorem reads_equality (comment : String) (differs : Line) :
    (equality comment differs).layout.Reads := by
  refine ⟨readActual, Method.mem_layout_of_mem_check ?_, " = ", " =".toList, ' ', ?_, by decide,
    mayPrecede_of_mem (by simp)⟩
  · exact List.mem_of_getElem? (i := 4) rfl
  · exact ⟨["    ", .hole .propertyType, " actual", .hole .propertyCapital], _, rfl⟩

theorem reads_containing (c : Container) : (containing c).layout.Reads := by
  refine ⟨["    ", c.helper, ".instance().", "assertContains", "(info, ", .hole .reading, ", ",
    .hole .parameter, ");"], Method.mem_layout_of_mem_check ?_, "(info, ", "(info,".toList, ' ', ?_,
    by decide, mayPrecede_of_mem (by simp)⟩
  · exact List.mem_of_getElem? (i := 4) rfl
  · exact ⟨["    ", c.helper, ".instance().", "assertContains"], _, rfl⟩

theorem reads_primitiveHolding : primitiveHolding.layout.Reads := by
  refine ⟨["    if (", "!", .hole .reading, ") \x7b"], Method.mem_layout_of_mem_check ?_, "!", [],
    '!', ?_, by decide, mayPrecede_of_mem (by simp)⟩
  · exact List.mem_of_getElem? (i := 1) rfl
  · exact ⟨["    if ("], _, rfl⟩

theorem reads_objectHolding : objectHolding.layout.Reads := by
  refine ⟨["    if (", "!Boolean.TRUE.equals(", .hole .reading, ")", ") \x7b"],
    Method.mem_layout_of_mem_check ?_, "!Boolean.TRUE.equals(", "!Boolean.TRUE.equals".toList, '(',
    ?_, by decide, mayPrecede_of_mem (by simp)⟩
  · exact List.mem_of_getElem? (i := 1) rfl
  · exact ⟨["    if ("], _, rfl⟩

end PropertyLayout

/-- All methods read the value. -/
theorem Role.reads_layout {r : Role} (hr : r ∈ ofProperty) : r.layout.Reads := by
  cases r
  case has | hasForWholeNumber | hasForWholeNumberWrapper | hasForChar | hasForCharacter =>
    exact PropertyLayout.reads_equality _ _
  case hasForRealNumber | hasForRealNumberWrapper =>
    exact (PropertyLayout.reads_equality _ _).blocks (.head _)
  case hasForArray | hasForIterable => exact (PropertyLayout.reads_containing _).blocks (.head _)
  case is => exact PropertyLayout.reads_primitiveHolding.blocks (.head _)
  case isWrapper => exact PropertyLayout.reads_objectHolding.blocks (.head _)
  case isWithoutNegation => exact PropertyLayout.reads_primitiveHolding
  case isWrapperWithoutNegation => exact PropertyLayout.reads_objectHolding
  all_goals exact absurd hr (by decide)

/-- The line that declares a class that holds all methods itself. -/
def ClassLayout.flatDeclaration (superclass : String) : Line :=
  pieces [["public class ", .hole .assertClass, superclass], flatArguments]

theorem ClassLayout.flatDeclaration_mem (superclass : String) :
    flatDeclaration superclass ∈ flatWith superclass :=
  List.mem_append_right _ (List.mem_cons_self ..)

/-- The line mentions the superclass between a blank and the bracket of its arguments. -/
theorem ClassLayout.mentions_flatDeclaration {superclass mark : String}
    (h : superclass.toList = " extends".toList ++ ' ' :: (mark.toList ++ ['<'])) :
    (flatDeclaration superclass).Mentions mark := by
  have hangle : QualifiedName.isNameChar '<' = false := by decide
  refine ⟨[superclass], ⟨["public class ", .hole .assertClass], flatArguments, rfl⟩, ' ', '<',
    ⟨" extends".toList, [], by simp [h]⟩, mayPrecede_of_mem (by simp), by simp [endsWord, hangle]⟩

end Template

/-! ## Helper classes of properties -/

namespace Property
open Template Imports

variable {p : Property}

/-- The helper classes that the methods of a property use. A field that is not public is read
    through one of its own. -/
def helperClasses (p : Property) (s : Surface) : List String :=
  (p.role s).helperClasses ++
    if p.isHiddenField then ["org.assertj.core.util.introspection.FieldSupport"] else []

theorem get?_filling_reading (p : Property) (package : String) :
    (p.filling package).get? .reading = some (p.reading package) := by
  have hkind : (p.kindEntries package).reverse.lookup .reading = none := by
    rw [List.lookup_eq_none_iff]
    intro e he
    obtain ⟨hr, hkeys⟩ := p.role_spec (.bare .object) package
    have hmem : e.1 ∈ (p.role (.bare .object)).kindHoles :=
      hkeys ▸ List.mem_map_of_mem (List.mem_reverse.1 he)
    have hne : ∀ r ∈ Role.ofProperty, ∀ h ∈ r.kindHoles, (Hole.reading != h) = true := by decide
    exact hne _ hr _ hmem
  rw [filling, Filling.get?_ofList, List.reverse_append, List.reverse_append, List.lookup_append,
    List.lookup_append, hkind]
  rfl

theorem toList_reading_of_isHiddenField (h : p.isHiddenField = true) (package : String) :
    ∃ rest, (p.reading package).toList = "FieldSupport.".toList ++ 'E' :: rest := by
  have hlead : "FieldSupport.EXTRACTION.fieldValue(\"".toList =
      "FieldSupport.".toList ++ 'E' :: "XTRACTION.fieldValue(\"".toList := by decide
  cases horigin : p.origin with
  | accessor failures => simp [isHiddenField, horigin] at h
  | field visibility =>
    have hpublic : visibility.isPublic = false := by simpa [isHiddenField, horigin] using h
    rw [reading]
    simp only [horigin, hpublic, Bool.false_eq_true, if_false, String.toList_append, hlead,
      List.append_assoc, List.cons_append]
    exact ⟨_, rfl⟩

/-- Where a field that is not public is read, its helper class is mentioned. -/
theorem mentions_methodLines_of_isHiddenField (h : p.isHiddenField = true) (s : Surface)
    (package : String) : (p.methodLines s package).Mentions "FieldSupport." := by
  obtain ⟨line, hline, t, front, c, hin, hfront, hc⟩ :=
    Role.reads_layout (p.role_spec s package).1
  obtain ⟨rest, hreading⟩ := toList_reading_of_isHiddenField h package
  have hmap := hin.map (Segment.fillBy (p.filling package).get?)
  rw [List.map_cons, List.map_singleton, Segment.fillBy, Segment.fillBy,
    p.get?_filling_reading] at hmap
  -- With its value the hole is a text like the one in front of it.
  refine ⟨_, List.mem_map_of_mem hline, [t, p.reading package], hmap, c, 'E', ?_, hc,
    endsWord_append_dot "FieldSupport".toList _⟩
  exact ⟨front, rest, by simp [hfront, hreading]⟩

/-- The methods of a property mention each helper class that they use. -/
theorem exists_mentions_methodLines {s : Surface} {name : String} (h : name ∈ p.helperClasses s)
    (package : String) :
    ∃ mark, (mark, name) ∈ helpers ∧ (p.methodLines s package).Mentions mark := by
  rcases List.mem_append.1 h with h | h
  · obtain ⟨mark, hmark, hmentions⟩ := Role.exists_mentions_layout h
    exact ⟨mark, hmark, hmentions.fillBy _⟩
  · split at h
    · next hhidden =>
      obtain rfl := List.mem_singleton.1 h
      exact ⟨"FieldSupport.", by decide, mentions_methodLines_of_isHiddenField hhidden s package⟩
    · exact absurd h List.not_mem_nil

end Property

/-! ## Helper classes of a class -/

namespace Surface
open Template Imports

variable {s : Surface}

/-- The class that the assertion class for a surface extends, if it holds all methods itself. -/
def superclassName (s : Surface) : String :=
  if s.isComparable then "org.assertj.core.api.AbstractComparableAssert"
  else "org.assertj.core.api.AbstractObjectAssert"

/-- The classes that the assertion class for a surface has to import: the one that it extends, and
    those that the methods of its properties use. -/
def helperClasses (s : Surface) : List String :=
  s.superclassName :: s.properties.flatMap fun p => p.helperClasses s

/-- The frame mentions the superclass where it declares the class. -/
theorem exists_mentions_superclassName (s : Surface) :
    ∃ mark, (mark, s.superclassName) ∈ helpers ∧ ∃ superclass,
      ClassLayout.flatDeclaration superclass ∈ Role.assertClass.layoutFor s ∧
        (ClassLayout.flatDeclaration superclass).Mentions mark := by
  rw [superclassName, Role.layoutFor]
  cases s.isComparable with
  | true =>
    exact ⟨"AbstractComparableAssert", by decide, " extends AbstractComparableAssert<",
      ClassLayout.flatDeclaration_mem _, ClassLayout.mentions_flatDeclaration (by decide)⟩
  | false =>
    exact ⟨"AbstractObjectAssert", by decide, " extends AbstractObjectAssert<",
      ClassLayout.flatDeclaration_mem _, ClassLayout.mentions_flatDeclaration (by decide)⟩

end Surface

namespace ClassWriter
open Template Text QualifiedName Imports

variable {w : ClassWriter} {s : Surface} {r : Role} {name : String} {entries : List (Hole × String)}
  {properties : List Property}

/-- Each line of the methods stands in the text of the class. -/
theorem IsDefault.infix_fill_methods (hw : w.IsDefault) (hs : s.IsInline) (hr : r ∈ Role.ofClass)
    (hp : ∀ p ∈ properties, p.IsInline) (he : AreEntries r name entries) (hname : name ≠ "")
    (hchars : ∀ c ∈ name.toList, isNameChar c = true) {body : String}
    (h : w.body s r properties = .ok body) {p : Property} (hmem : p ∈ properties) :
    ∀ line ∈ p.methodLines s (s.targetPackage w.package),
      joined (line.map (Segment.fillBy (w.classFilling s entries).get?)) <:+:
        ((w.classFilling s entries).fill body).toList := by
  obtain ⟨body', f, hbody, -, -, htext, -⟩ :=
    hw.exists_rendering hs hr hp he hname hchars inline_of_mem_none
  obtain rfl := Except.ok.inj (h.symm.trans hbody)
  intro line hline
  rw [htext]
  refine infix_joined_segments (List.mem_map_of_mem (List.mem_append_right _ ?_))
  exact List.mem_append_left _ (List.mem_flatMap.2 ⟨p, hmem, hline⟩)

/-- The text of a class that holds all methods itself mentions each helper class that it uses. -/
theorem IsDefault.exists_mentions_flat (hw : w.IsDefault) (hs : s.IsInline)
    (hn : s.subject.WellFormed) {body : String}
    (h : w.body s .assertClass s.properties = .ok body) {helper : String}
    (hhelper : helper ∈ s.helperClasses) :
    ∃ mark, (mark, helper) ∈ helpers ∧
      mentions ((w.classFilling s (concreteEntries s)).fill body) mark = true := by
  have hr : Role.assertClass ∈ Role.ofClass := by decide
  have he := areEntries_concrete hs (by decide : Role.assertClass ≠ .abstractAssertClass)
  have hname := assertClass_ne_empty s
  have hchars := isNameChar_assertClass hn
  rcases List.mem_cons.1 hhelper with rfl | hhelper
  · obtain ⟨mark, hmark, superclass, hline, hmentions⟩ := s.exists_mentions_superclassName
    have hin := hw.infix_fill hs hr hs.properties he hname hchars h _ hline
      (by simp [ClassLayout.flatDeclaration, pieces])
      (by simp [ClassLayout.flatDeclaration, pieces])
    exact ⟨mark, hmark, (hmentions.fillBy _).mentions (mark_ne_nil hmark) hin⟩
  · obtain ⟨p, hp, hhelper⟩ := List.mem_flatMap.1 hhelper
    obtain ⟨mark, hmark, line, hline, hmentions⟩ :=
      Property.exists_mentions_methodLines hhelper (s.targetPackage w.package)
    have hin := hw.infix_fill_methods hs hr hs.properties he hname hchars h hp line hline
    exact ⟨mark, hmark, (hmentions.fillBy _).mentions (mark_ne_nil hmark) hin⟩

/-- A helper class that a class uses is imported unless it is in the package of the class. -/
theorem IsDefault.mem_importsIn_flat_iff (hw : w.IsDefault) (hs : s.IsInline)
    (hn : s.subject.WellFormed) {source helper : String} (h : w.flat s = .ok source)
    (hhelper : helper ∈ s.helperClasses) :
    helper ∈ importsIn source ↔ packageOf? helper ≠ some (s.targetPackage w.package) := by
  obtain ⟨body, hbody, h⟩ := bind_eq_ok_iff.1 h
  obtain rfl := Except.ok.inj h
  have he := areEntries_concrete hs (by decide : Role.assertClass ≠ .abstractAssertClass)
  rw [hw.importsIn_complete hs (by decide) hs.properties he (assertClass_ne_empty s)
    (isNameChar_assertClass hn) inline_of_mem_none hbody, mem_importsOf]
  constructor
  · rintro (htype | ⟨h, hh, -, hneeded⟩ | hnone)
    · exact packageOf?_ne_of_mem_neededFor? hn htype
    · obtain rfl := eq_of_mem_needed? hneeded
      exact (mem_needed?_iff_of_mem_helpers hh).1 hneeded
    · exact absurd hnone (by simp)
  · intro hne
    obtain ⟨mark, hmark, hmentions⟩ := hw.exists_mentions_flat hs hn hbody hhelper
    exact .inr (.inl ⟨_, hmark, hmentions, (mem_needed?_iff_of_mem_helpers hmark).2 hne⟩)

variable {c : Catalog} {text : String}

/-- The class that holds all methods itself imports the helper classes that it uses, but for those
    in its own package, whatever a catalog says of the type. -/
theorem mem_importsIn_iff_of_mem_helperClasses (hc : Catalog.parse text = .ok c)
    (hi : c.hasIdentifiers = true) (hs : s.IsDescribed c) (hw : w.IsDefault) :
    ∃ source, w.flat s = .ok source ∧ ∀ helper ∈ s.helperClasses,
      helper ∈ importsIn source ↔ packageOf? helper ≠ some (s.targetPackage w.package) := by
  have hr := Catalog.readable_of_parse hc
  have hinline := hs.isInline hr hi
  have hn := hs.wellFormed hr
  obtain ⟨source, hflat, -⟩ := hw.flat_eq_ok hinline hn
  exact ⟨source, hflat, fun helper hhelper => hw.mem_importsIn_flat_iff hinline hn hflat hhelper⟩

/-- In the package of one of its helper classes, a class imports only the other one. -/
theorem mem_importsIn_iff_of_mem_helperClasses_sameFlatNames :
    let w : ClassWriter := ⟨.default, some "org.assertj.core.util"⟩
    let s := Surface.ofDeclaration Catalog.sameFlatNames ⟨.byName, true⟩ Catalog.nestedClass
    Catalog.parse Catalog.sameFlatNames.toText = .ok Catalog.sameFlatNames ∧
      Catalog.sameFlatNames.hasIdentifiers = true ∧ s.IsDescribed Catalog.sameFlatNames ∧
      w.IsDefault ∧ ∃ source, w.flat s = .ok source ∧
        "org.assertj.core.api.AbstractObjectAssert" ∈ importsIn source ∧
        "org.assertj.core.util.Objects" ∉ importsIn source := by
  intro w s
  have hw : w.IsDefault := by
    refine ⟨rfl, fun package hp => ?_⟩
    obtain rfl := Option.some.inj hp
    decide
  have hs : s.IsDescribed Catalog.sameFlatNames :=
    Catalog.isDescribed_sameFlatNames (.inl rfl) ⟨.byName, true⟩
  have hhelpers : s.helperClasses =
      ["org.assertj.core.api.AbstractObjectAssert", "org.assertj.core.util.Objects"] := by
    decide +kernel
  obtain ⟨source, hflat, himports⟩ := mem_importsIn_iff_of_mem_helperClasses
    Catalog.parse_sameFlatNames Catalog.hasIdentifiers_sameFlatNames hs hw
  refine ⟨Catalog.parse_sameFlatNames, Catalog.hasIdentifiers_sameFlatNames, hs, hw, source, hflat,
    (himports _ (by simp [hhelpers])).2 (by decide), fun hmem => ?_⟩
  exact (himports _ (by simp [hhelpers])).1 hmem (by decide)

end ClassWriter
end AssertionWriter
