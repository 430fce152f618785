/-
  AssertionWriter.Proofs.AssertionClass.Importing

  Imports that are collected by any calls one after the other. Each call asks for some names,
  and whether it gets one of them depends on the package alone. So what has been collected is
  what the calls ask for, whichever came first and however often, and the lines that are
  written are in ascending order and of other packages; and a call that says that it has added
  a name is one that changes them.
-/
import Mathlib.Data.List.Sort
import AssertionWriter.Proofs.AssertionClass.HelperClasses
import AssertionWriter.Proofs.QualifiedName.Order

namespace AssertionWriter.Imports
open QualifiedName Template

variable {i j : Imports} {package other name : String}

/-! ## Packages -/

/-- The name is that of a top-level type in the package. -/
def LiesIn (package name : String) : Prop :=
  ∃ simple : String, '.' ∉ simple.toList ∧ name = qualify package simple

/-- Names of the default package have no dot, and so no package that can be read off. -/
theorem LiesIn.packageOf?_eq (h : LiesIn package name) :
    packageOf? name = if package = "" then none else some package := by
  obtain ⟨simple, hsimple, rfl⟩ := h
  split
  · next hempty =>
    subst hempty
    rw [Option.eq_none_iff_forall_ne_some]
    intro q hq
    obtain ⟨rest, -, hname⟩ := packageOf?_eq_some_iff.1 hq
    have hdot : '.' ∈ (qualify "" simple).toList := by
      rw [hname]
      simp
    exact hsimple hdot
  · next hpackage => exact packageOf?_qualify hpackage hsimple

/-- A name is in one package only. -/
theorem LiesIn.unique (h : LiesIn package name) (hother : LiesIn other name) :
    package = other := by
  have heq := h.packageOf?_eq.symm.trans hother.packageOf?_eq
  split at heq
  · split at heq
    · next hpackage hother => rw [hpackage, hother]
    · cases heq
  · split at heq
    · cases heq
    · exact Option.some.inj heq

/-- The name is in a package whose types are in scope only where they are imported. -/
def IsElsewhere (package name : String) : Prop :=
  ∃ q, LiesIn q name ∧ q ≠ package ∧ q ≠ builtInPackage ∧ q ≠ ""

/-! ## Names joined by dots -/

/-- A part of a name. Of its characters no more is asked than that they cannot be mistaken for
    the end of the part or of a line. -/
structure IsIdentifier (part : String) : Prop where
  ne : part ≠ ""
  dot : '.' ∉ part.toList
  inline : Inline part

instance (part : String) : Decidable (IsIdentifier part) :=
  decidable_of_iff (part ≠ "" ∧ '.' ∉ part.toList ∧ Inline part)
    ⟨fun h => ⟨h.1, h.2.1, h.2.2⟩, fun h => ⟨h.ne, h.dot, h.inline⟩⟩

/-- The name is made of parts with dots between them. -/
def IsDotted (name : String) : Prop :=
  ∃ parts : List String, (∀ p ∈ parts, IsIdentifier p) ∧ name = ".".intercalate parts

theorem IsDotted.inline (h : IsDotted name) : Inline name := by
  obtain ⟨parts, hparts, rfl⟩ := h
  exact Inline.intercalate (by decide) fun p hp => (hparts p hp).inline

/-- A name made of parts does not start with a dot. -/
theorem IsDotted.head?_ne (h : IsDotted name) : name.toList.head? ≠ some '.' := by
  obtain ⟨parts, hparts, rfl⟩ := h
  have hdot : ".".toList = ['.'] := rfl
  rw [String.toList_intercalate, hdot]
  cases parts with
  | nil => exact nofun
  | cons part parts =>
    obtain ⟨hpart, -⟩ := List.forall_mem_cons.1 hparts
    obtain ⟨c, cs, hchars⟩ := List.exists_cons_of_ne_nil (mt String.toList_eq_nil_iff.1 hpart.ne)
    have hc : c ≠ '.' := fun heq => hpart.dot (by simp [hchars, heq])
    cases parts with
    | nil => simpa [hchars] using hc
    | cons next parts => simpa [hchars, List.intercalate] using hc

/-- So there is something in front of its last dot. -/
theorem IsDotted.package_ne (h : IsDotted name) (hpackage : packageOf? name = some package) :
    package ≠ "" := by
  rintro rfl
  obtain ⟨simple, -, rfl⟩ := packageOf?_eq_some_iff.1 hpackage
  exact h.head?_ne (by simp)

/-! ## What is asked for -/

/-- What can be asked of imports. -/
inductive Addition where
  | type (n : QualifiedName)
  | name (name : String)
  | helpers (text : String)

namespace Addition

/-- Does what is asked for. -/
def apply (i : Imports) : Addition → Imports
  | .type n => (i.addType n).2
  | .name s => (i.addName s).2
  | .helpers text => i.addHelpers text

/-- Asks for the name, in a source in the package. -/
def Needs (package : String) : Addition → String → Prop
  | .type n, s => s ∈ (empty package).neededFor? n
  | .name t, s => s ∈ (empty package).needed? t
  | .helpers text, s =>
    ∃ h ∈ Imports.helpers, mentions text h.1 = true ∧ s ∈ (empty package).needed? h.2

/-- The name of a type is one that has been read, and any other name is made of parts. -/
def IsSound : Addition → Prop
  | .type n => n.IsRead
  | .name s => IsDotted s
  | .helpers _ => True

@[simp] theorem package_apply (a : Addition) (i : Imports) : (a.apply i).package = i.package := by
  cases a with
  | type n => exact package_add _
  | name s => exact package_add _
  | helpers text => exact package_addHelpers text

/-- One step adds the names that are asked for. -/
theorem mem_toList_apply {a : Addition} :
    name ∈ (a.apply i).toList ↔ name ∈ i.toList ∨ a.Needs i.package name := by
  cases a with
  | type n => exact mem_toList_add.trans or_comm
  | name s => exact mem_toList_add.trans or_comm
  | helpers text => exact mem_toList_addHelpers

end Addition

/-- The imports of a source in a package after some calls. -/
def after (package : String) (additions : List Addition) : Imports :=
  additions.foldl (fun i a => a.apply i) (empty package)

variable {additions : List Addition}

/-- After some calls the names are there that one of them has asked for. -/
theorem mem_toList_after :
    name ∈ (after package additions).toList ↔ ∃ a ∈ additions, a.Needs package name := by
  have hfold : ∀ i : Imports, i.package = package →
      (name ∈ (additions.foldl (fun i a => a.apply i) i).toList ↔
        name ∈ i.toList ∨ ∃ a ∈ additions, a.Needs package name) := by
    induction additions with
    | nil => simp
    | cons a additions ih =>
      intro i hi
      rw [List.foldl_cons, ih _ ((a.package_apply i).trans hi), Addition.mem_toList_apply, hi,
        or_assoc]
      simp only [List.mem_cons, exists_eq_or_imp]
  exact (hfold _ rfl).trans (or_iff_right List.not_mem_nil)

/-! ## Which names are asked for -/

theorem isElsewhere_of_mem_neededFor? {n : QualifiedName} (hn : n.WellFormed)
    (h : name ∈ (empty package).neededFor? n) : IsElsewhere package name := by
  obtain ⟨rfl, hout⟩ := eq_qualify_of_mem_neededFor? h
  exact ⟨n.package, ⟨_, hn.dot_not_mem_outermost, rfl⟩, hout⟩

theorem isElsewhere_of_mem_needed? {s : String} (hs : ∀ q, packageOf? s = some q → q ≠ "")
    (h : name ∈ (empty package).needed? s) : IsElsewhere package name := by
  obtain rfl := eq_of_mem_needed? h
  obtain ⟨q, hq, hneeded⟩ := Option.bind_eq_some_iff.1 h
  split at hneeded
  · exact absurd hneeded (by simp)
  · next hout =>
    simp only [Bool.or_eq_true, decide_eq_true_eq, not_or] at hout
    obtain ⟨simple, hsimple, hname⟩ := packageOf?_eq_some_iff.1 hq
    have hempty : q.isEmpty = false := by simpa using hs q hq
    refine ⟨q, ⟨simple, hsimple, ?_⟩, hout.2, hout.1, hs q hq⟩
    rw [qualify, hempty, if_neg Bool.false_ne_true, hname]

/-- Whatever is asked for is in another package, and is written in one line. -/
theorem Addition.IsSound.isElsewhere {a : Addition} (ha : a.IsSound)
    (h : a.Needs package name) : IsElsewhere package name ∧ Inline name := by
  cases a with
  | type n =>
    have hn : n.WellFormed := IsRead.wellFormed ha
    exact ⟨isElsewhere_of_mem_neededFor? hn h, inline_of_mem_neededFor? hn.isInline name h⟩
  | name s =>
    have hs : IsDotted s := ha
    refine ⟨isElsewhere_of_mem_needed? (fun q hq => hs.package_ne hq) h, ?_⟩
    rw [eq_of_mem_needed? h]
    exact hs.inline
  | helpers text =>
    obtain ⟨helper, hmem, -, hneeded⟩ := h
    have hnamed : ∀ h ∈ Imports.helpers, packageOf? h.2 ≠ some "" := by decide
    refine ⟨isElsewhere_of_mem_needed? ?_ hneeded, ?_⟩
    · rintro q hq rfl
      exact hnamed helper hmem hq
    · rw [eq_of_mem_needed? hneeded]
      exact inline_of_mem_helpers hmem

/-! ## The lines -/

theorem importsIn_render (h : i.AllInline) : importsIn i.render = i.toList := by
  have hread := filterMap_imported?_render h []
  rw [List.append_nil] at hread
  rw [importsIn, hread]
  exact List.append_nil _

/-- The names decide what is written, and they stand in one order only. -/
theorem render_eq_of_mem_iff (h : ∀ name, name ∈ i.toList ↔ name ∈ j.toList) :
    i.render = j.render := by
  have hnames : i.toList = j.toList :=
    i.names.pairwise_keys.eq_of_mem_iff j.names.pairwise_keys h
  rw [render, render, hnames]

/-- What is said to be new is what changes the lines. -/
theorem add_fst_iff (hi : i.AllInline) {name? : Option String}
    (hname : ∀ name ∈ name?, Inline name) :
    (i.add name?).1 = true ↔ (i.add name?).2.render ≠ i.render := by
  cases name? with
  | none => exact ⟨nofun, fun h => absurd rfl h⟩
  | some name =>
    have hnew : (i.add (some name)).1 = true ↔ name ∉ i.toList := by
      show (!i.names.contains name) = true ↔ name ∉ i.names.keys
      rw [NameMap.mem_keys_iff, Bool.not_eq_true', Bool.eq_false_iff]
    rw [hnew]
    constructor
    · -- The name can be read in the lines behind the call, but not in those in front of it.
      intro hnot heq
      rw [← importsIn_render hi, ← heq, importsIn_render (hi.add hname)] at hnot
      exact hnot (mem_toList_add.2 (.inl rfl))
    · intro hne hmem
      refine hne (render_eq_of_mem_iff fun n => ?_)
      rw [mem_toList_add, Option.mem_some_iff, or_iff_right_of_imp]
      rintro rfl
      exact hmem

/-! ## Any calls -/

/-- The lines for a source in the package are in order, and need to be there; and a call that says
    that it has added a name is one that changes them. -/
structure IsTidy (package : String) (i : Imports) : Prop where
  ascending : (importsIn i.render).Pairwise (· < ·)
  elsewhere : ∀ name ∈ importsIn i.render,
    (∃ q, LiesIn q name) ∧ ∀ q ∈ [package, builtInPackage, ""], ¬LiesIn q name
  tellsType : ∀ n : QualifiedName, n.IsRead →
    ((i.addType n).1 = true ↔ (i.addType n).2.render ≠ i.render)
  tellsName : ∀ name, IsDotted name →
    ((i.addName name).1 = true ↔ (i.addName name).2.render ≠ i.render)

theorem allInline_after (h : ∀ a ∈ additions, a.IsSound) : (after package additions).AllInline := by
  intro name hname
  obtain ⟨a, ha, hneeds⟩ := mem_toList_after.1 hname
  exact ((h a ha).isElsewhere hneeds).2

/-- Whatever is asked for, the lines are tidy, and they depend on neither the order nor the
    repetition of the calls. -/
theorem isTidy_after (h : ∀ a ∈ additions, a.IsSound) :
    IsTidy package (after package additions) ∧
      ∀ others : List Addition, (∀ a, a ∈ others ↔ a ∈ additions) →
        (after package others).render = (after package additions).render := by
  have hinline := @allInline_after package _ h
  have hread := importsIn_render hinline
  refine ⟨⟨?_, ?_, ?_, ?_⟩, ?_⟩
  · rw [hread]
    exact NameMap.pairwise_keys _
  · intro name hname
    rw [hread, mem_toList_after] at hname
    obtain ⟨a, ha, hneeds⟩ := hname
    obtain ⟨⟨q, hq, hpackage, hbuiltIn, hempty⟩, -⟩ := (h a ha).isElsewhere hneeds
    refine ⟨⟨q, hq⟩, fun other hother hlies => ?_⟩
    obtain rfl := hq.unique hlies
    simp [hpackage, hbuiltIn, hempty] at hother
  · intro n hn
    exact add_fst_iff hinline (inline_of_mem_neededFor? hn.wellFormed.isInline)
  · intro name hname
    exact add_fst_iff hinline fun n hn => eq_of_mem_needed? hn ▸ hname.inline
  · intro others hothers
    refine render_eq_of_mem_iff fun name => ?_
    rw [mem_toList_after, mem_toList_after]
    exact exists_congr fun a => and_congr_left fun _ => hothers a

/-- Calls of each kind, among them one for a type of the package itself. -/
def mixedAdditions : List Addition :=
  [.type ⟨"com.acme", ["Team"], "Coach"⟩, .name "org.b.B", .name "org.a.A",
    .helpers "Objects.hash(name)"]

theorem isTidy_after_mixedAdditions :
    (∀ a ∈ mixedAdditions, a.IsSound) ∧ IsTidy "org.b" (after "org.b" mixedAdditions) ∧
      (after "org.b" (mixedAdditions.reverse ++ mixedAdditions)).render =
        "import com.acme.Team;\nimport org.a.A;\nimport org.assertj.core.util.Objects;\n\n" := by
  have hsound : ∀ a ∈ mixedAdditions, a.IsSound := by
    simp only [mixedAdditions, List.forall_mem_cons]
    refine ⟨⟨"com.acme.Team$Coach", by decide +kernel⟩, ⟨["org", "b", "B"], by decide, by decide⟩,
      ⟨["org", "a", "A"], by decide, by decide⟩, trivial, List.forall_mem_nil _⟩
  obtain ⟨htidy, hothers⟩ := @isTidy_after "org.b" _ hsound
  refine ⟨hsound, htidy, ?_⟩
  rw [hothers _ (by simp)]
  decide +kernel

end AssertionWriter.Imports
