/-
  AssertionWriter.Proofs.EntryPoint.Order

  What an entry point owes to the order of its subjects. The methods are sorted by the
  dotted names of their subjects, and neighbours are dropped if they have one subject. So
  an entry point depends on nothing but the set of its subjects as long as no two of them
  have one dotted name; else one of them in front of the others makes for a method more.
-/
import AssertionWriter.Proofs.Catalog.Selection
import AssertionWriter.Proofs.EntryPoint.Sources
import AssertionWriter.Proofs.Text.Apart
import Mathlib.Data.Prod.Lex
import Mathlib.Data.String.Basic

namespace AssertionWriter

theorem isLE_compare_iff {a b : String} : (compare a b).isLE = true ↔ a ≤ b :=
  isLE_compareOfLessAndEq String.le_antisymm String.not_le (fun a b => String.le_total a b)

namespace EntryPoint
open Template Text

/-! ## The package -/

variable {s : Surface} {ss ss' : List Surface} {ns : List QualifiedName}

/-- What decides between packages. -/
def rank (package : String) : Nat ×ₗ String := toLex (package.utf8ByteSize, package)

theorem precedes_iff {p q : String} : precedes p q = true ↔ rank p < rank q := by
  rw [rank, rank, Prod.Lex.toLex_lt_toLex]
  simp [precedes]

theorem rank_injective {p q : String} (h : rank p = rank q) : p = q :=
  congrArg (fun r => (ofLex r).2) h

theorem rank_foldl_le (best : String) (ps : List String) : ∀ p ∈ best :: ps,
    rank (ps.foldl (fun best p => if precedes p best then p else best) best) ≤ rank p := by
  induction ps generalizing best with
  | nil => simp
  | cons q ps ih =>
    have ih := ih (if precedes q best then q else best)
    have htaken : rank (if precedes q best then q else best) ≤ rank best ∧
        rank (if precedes q best then q else best) ≤ rank q := by
      split
      · next hq => exact ⟨(precedes_iff.1 hq).le, le_rfl⟩
      · next hq => exact ⟨le_rfl, not_lt.1 (mt precedes_iff.2 hq)⟩
    have hle := ih _ (List.mem_cons_self ..)
    intro p hp
    rcases List.mem_cons.1 hp with rfl | hp
    · exact hle.trans htaken.1
    · rcases List.mem_cons.1 hp with rfl | hp
      · exact hle.trans htaken.2
      · exact ih p (List.mem_cons_of_mem _ hp)

/-- No package of a subject goes before the common one. -/
theorem rank_commonPackage_le (hs : s ∈ ss) : rank (commonPackage ss) ≤ rank s.package := by
  cases ss with
  | nil => exact absurd hs List.not_mem_nil
  | cons t ss => exact rank_foldl_le _ _ _ (List.mem_map_of_mem hs)

/-! ## Subjects -/

/-- The lists have the same subjects, in whatever order and number. -/
def SameSubjects (ss ss' : List Surface) : Prop :=
  ∀ n, n ∈ ss.map (·.subject) ↔ n ∈ ss'.map (·.subject)

/-- No two subjects have one dotted name. -/
def TellsApart (ss : List Surface) : Prop :=
  ∀ s ∈ ss, ∀ t ∈ ss, s.subject.qualified = t.subject.qualified → s.subject = t.subject

theorem SameSubjects.symm (h : SameSubjects ss ss') : SameSubjects ss' ss := fun n => (h n).symm

theorem SameSubjects.exists_mem (h : SameSubjects ss ss') (hs : s ∈ ss) :
    ∃ t ∈ ss', t.subject = s.subject :=
  List.mem_map.1 ((h _).1 (List.mem_map_of_mem hs))

theorem SameSubjects.eq_nil_iff (h : SameSubjects ss ss') : ss = [] ↔ ss' = [] := by
  have hnil : ∀ {ss ss' : List Surface}, SameSubjects ss ss' → ss = [] → ss' = [] := by
    rintro ss ss' h rfl
    refine List.eq_nil_iff_forall_not_mem.2 fun t ht => ?_
    obtain ⟨s, hs, -⟩ := h.symm.exists_mem ht
    exact absurd hs List.not_mem_nil
  exact ⟨hnil h, hnil h.symm⟩

theorem SameSubjects.commonPackage_eq (h : SameSubjects ss ss') :
    commonPackage ss = commonPackage ss' := by
  have hle : ∀ {ss ss' : List Surface}, SameSubjects ss ss' → ss ≠ [] →
      rank (commonPackage ss') ≤ rank (commonPackage ss) := by
    intro ss ss' h hne
    obtain ⟨s, hs, hpackage⟩ := commonPackage_mem hne
    obtain ⟨t, ht, hsubject⟩ := h.exists_mem hs
    rw [hpackage, Surface.package, ← hsubject]
    exact rank_commonPackage_le ht
  by_cases hne : ss = []
  · rw [hne, h.eq_nil_iff.1 hne]
  · exact rank_injective ((hle h.symm (mt h.eq_nil_iff.2 hne)).antisymm (hle h hne))

theorem TellsApart.congr (h : TellsApart ss) (hsame : SameSubjects ss ss') : TellsApart ss' := by
  intro s hs t ht hqualified
  obtain ⟨s', hs', hs⟩ := hsame.symm.exists_mem hs
  obtain ⟨t', ht', ht⟩ := hsame.symm.exists_mem ht
  rw [← hs, ← ht] at hqualified ⊢
  exact h s' hs' t' ht' hqualified

/-- Dotted names tell types apart unless the outermost class around some of them has no capital. -/
theorem tellsApart_of_startsChain
    (h : ∀ s ∈ ss, s.subject.WellFormed ∧ s.subject.StartsChain) : TellsApart ss := by
  intro s hs t ht hqualified
  have hread := (QualifiedName.parse?_qualified_iff (h s hs).1).2 (h s hs).2
  rw [hqualified, (QualifiedName.parse?_qualified_iff (h t ht).1).2 (h t ht).2] at hread
  exact (Option.some.inj hread).symm

/-! ## The order of the methods -/

/-- The names are the subjects, each of them once, in ascending order of the dotted names. -/
structure IsMethodOrder (ss : List Surface) (ns : List QualifiedName) : Prop where
  nodup : ns.Nodup
  mem_iff : ∀ n, n ∈ ns ↔ n ∈ ss.map (·.subject)
  ascending : ns.Pairwise fun n m => n.qualified ≤ m.qualified

/-- There is no more than one such order. -/
theorem IsMethodOrder.eq {ms : List QualifiedName} (h : TellsApart ss) (hn : IsMethodOrder ss ns)
    (hm : IsMethodOrder ss ms) : ns = ms := by
  have hperm : ns.Perm ms := (List.perm_ext_iff_of_nodup hn.nodup hm.nodup).2 fun n =>
    (hn.mem_iff n).trans (hm.mem_iff n).symm
  refine hperm.eq_of_pairwise (fun n m hmemn hmemm hle hge => ?_) hn.ascending hm.ascending
  obtain ⟨s, hs, rfl⟩ := List.mem_map.1 ((hn.mem_iff n).1 hmemn)
  obtain ⟨t, ht, rfl⟩ := List.mem_map.1 ((hm.mem_iff m).1 hmemm)
  exact h s hs t ht (String.le_antisymm hle hge)

theorem IsMethodOrder.congr (h : IsMethodOrder ss ns) (hsame : SameSubjects ss ss') :
    IsMethodOrder ss' ns :=
  ⟨h.nodup, fun n => (h.mem_iff n).trans (hsame n), h.ascending⟩

/-- The surfaces as they are sorted. -/
def sorted (ss : List Surface) : List Surface :=
  ss.mergeSort fun a b => (compare a.subject.qualified b.subject.qualified).isLE

theorem pairwise_sorted (ss : List Surface) :
    (sorted ss).Pairwise fun a b => a.subject.qualified ≤ b.subject.qualified := by
  have hsorted : (sorted ss).Pairwise fun a b =>
      (compare a.subject.qualified b.subject.qualified).isLE = true :=
    pairwise_mergeSort_key compare (fun a : Surface => a.subject.qualified) ss
  exact hsorted.imp isLE_compare_iff.1

theorem mem_sorted : s ∈ sorted ss ↔ s ∈ ss := List.mem_mergeSort

theorem inOrder_eq (ss : List Surface) : inOrder ss = dropRepeats (·.subject) (sorted ss) := rfl

theorem mem_subjects_inOrder {n : QualifiedName} :
    n ∈ (inOrder ss).map (·.subject) ↔ n ∈ ss.map (·.subject) := by
  rw [inOrder_eq, mem_map_dropRepeats, List.mem_map, List.mem_map]
  simp only [mem_sorted]

/-- Surfaces of different subjects are only sorted for an entry point. -/
theorem perm_inOrder (h : (ss.map (·.subject)).Nodup) :
    (inOrder ss).Perm ss := by
  have hperm : (sorted ss).Perm ss := List.mergeSort_perm ..
  rwa [inOrder_eq, dropRepeats_eq_self ((hperm.map _).nodup_iff.2 h)]

/-- If the dotted names tell the subjects apart, the methods are in the order of these names. -/
theorem isMethodOrder_inOrder (h : TellsApart ss) :
    IsMethodOrder ss ((inOrder ss).map (·.subject)) := by
  have hlt : (inOrder ss).Pairwise fun a b =>
      compareOn QualifiedName.qualified a.subject b.subject = .lt := by
    refine pairwise_lt_dropRepeats (pairwise_mergeSort_key compare (·.subject.qualified) ss) ?_
    intro a ha b hb heq
    exact h a (mem_sorted.1 ha) b (mem_sorted.1 hb) (Std.compare_eq_iff_eq.1 heq)
  refine ⟨List.pairwise_map.2 (hlt.imp fun hab heq => ?_), fun n => mem_subjects_inOrder,
    List.pairwise_map.2 (hlt.imp fun hab => isLE_compare_iff.1 (Ordering.isLE_of_eq_lt hab))⟩
  rw [heq, compareOn, Std.ReflOrd.compare_self] at hab
  cases hab

/-! ## Sources -/

/-- The source of an entry point with one method for each of the names, in their order. -/
def sourceOf (w : ClassWriter) (ns : List QualifiedName) (mode : EntryPointMode) :
    Except Role String :=
  if ns.isEmpty then .ok ""
  else do
    let classTemplate ← w.template mode.classRole
    let methodTemplate ← w.template mode.methodRole
    let methods := String.join (ns.map fun n => method methodTemplate w.package (.bare n))
    let package := w.package.getD (commonPackage (ns.map .bare))
    return (Filling.ofList [(.package, package), (.entryPoints, methods)]).fill
      (ClassWriter.adaptPackage package classTemplate)

/-- A method tells nothing about the surface but its subject. -/
theorem method_eq_bare (template : String) (package : Option String) (s : Surface) :
    method template package s = method template package (.bare s.subject) := rfl

theorem source_eq_sourceOf (w : ClassWriter) (ss : List Surface) (mode : EntryPointMode) :
    source w ss mode = sourceOf w ((inOrder ss).map (·.subject)) mode := by
  have hsame : SameSubjects ss (((inOrder ss).map (·.subject)).map Surface.bare) := by
    intro n
    rw [List.map_map]
    simpa [Function.comp_def, Surface.bare] using mem_subjects_inOrder.symm
  have hempty : ((inOrder ss).map (·.subject)).isEmpty = ss.isEmpty := by
    rw [Bool.eq_iff_iff, List.isEmpty_iff, List.isEmpty_iff, hsame.eq_nil_iff,
      List.map_eq_nil_iff (f := Surface.bare)]
  rw [source, sourceOf, hempty, hsame.commonPackage_eq]
  simp only [List.map_map, Function.comp_def, ← method_eq_bare]

/-! ## One subject more -/

/-- A surface goes behind those of lower names and in front of all others. -/
theorem exists_sorted_cons (s : Surface) (ss : List Surface) : ∃ low high,
    sorted (s :: ss) = low ++ s :: high ∧ sorted ss = low ++ high ∧
      (∀ a ∈ low, a.subject.qualified < s.subject.qualified) ∧
      ∀ a ∈ high, s.subject.qualified ≤ a.subject.qualified := by
  obtain ⟨low, high, hcons, hsplit, hlow⟩ := List.mergeSort_cons
    (isLE_key_trans compare fun a : Surface => a.subject.qualified) (isLE_key_total _ _) s ss
  have hordered := pairwise_sorted (s :: ss)
  rw [sorted, hcons, List.pairwise_append] at hordered
  refine ⟨low, high, hcons, hsplit, fun a ha => ?_, (List.pairwise_cons.1 hordered.2.1).1⟩
  rw [← String.not_le, ← isLE_compare_iff, Bool.not_eq_true, ← Bool.not_eq_true']
  exact hlow a ha

/-- A surface makes for a method more, if the first one of its dotted name has another subject. -/
theorem length_inOrder_cons {first : Surface} (hne : s.subject ≠ first.subject)
    (hfirst : (sorted ss).find? (·.subject.qualified = s.subject.qualified) = some first) :
    (inOrder (s :: ss)).length = (inOrder ss).length + 1 := by
  obtain ⟨low, high, hcons, hsplit, hlow, hhigh⟩ := exists_sorted_cons s ss
  have hhead : high.head? = some first := by
    have hnone : low.find? (·.subject.qualified = s.subject.qualified) = none := by
      refine List.find?_eq_none.2 fun a ha heq => ?_
      exact String.lt_irrefl _ (of_decide_eq_true heq ▸ hlow a ha)
    rw [hsplit, List.find?_append, hnone, Option.none_or] at hfirst
    cases high with
    | nil => exact absurd hfirst (by simp)
    | cons h rest =>
      -- The first one stands among those behind the lower names, and none of them is lower.
      have hordered := hsplit ▸ pairwise_sorted ss
      have hle : h.subject.qualified ≤ s.subject.qualified := by
        have hkey : first.subject.qualified = s.subject.qualified := by
          simpa using List.find?_some hfirst
        rcases List.mem_cons.1 (List.mem_of_find?_eq_some hfirst) with rfl | hmem
        · exact hkey.le
        · exact hkey ▸ (List.pairwise_cons.1 (List.pairwise_append.1 hordered).2.1).1 first hmem
      have hkey := String.le_antisymm hle (hhigh h (List.mem_cons_self ..))
      rw [List.find?_cons_of_pos (by simpa using hkey)] at hfirst
      exact hfirst
  obtain ⟨rest, rfl⟩ : ∃ rest, high = first :: rest := by
    cases high with
    | nil => exact absurd hhead (by simp)
    | cons h rest => exact ⟨rest, by rw [Option.some.inj hhead]⟩
  have hapart : ∀ a ∈ low, ∀ b ∈ s :: first :: rest, a.subject ≠ b.subject := by
    intro a ha b hb heq
    have hle : s.subject.qualified ≤ b.subject.qualified := by
      rcases List.mem_cons.1 hb with rfl | hb
      · exact String.le_refl _
      · exact hhigh b hb
    exact String.not_le.2 (hlow a ha) (heq ▸ hle)
  rw [inOrder_eq, hcons, dropRepeats_append hapart, dropRepeats, if_neg hne, inOrder_eq, hsplit,
    dropRepeats_append fun a ha b hb => hapart a ha b (List.mem_cons_of_mem _ hb)]
  simp only [List.length_append, List.length_cons]
  omega

theorem exists_length_inOrder (h : ¬TellsApart ss) :
    ∃ s ∈ ss, (inOrder (s :: ss)).length = (inOrder ss).length + 1 := by
  simp only [TellsApart, not_forall] at h
  obtain ⟨x, hx, y, hy, hqualified, hne⟩ := h
  obtain ⟨first, hfirst⟩ : ∃ first, (sorted ss).find?
      (·.subject.qualified = x.subject.qualified) = some first :=
    Option.isSome_iff_exists.1 (List.find?_isSome.2 ⟨x, mem_sorted.2 hx, by simp⟩)
  -- At least one of the two has another subject than the first one.
  by_cases hsubject : x.subject = first.subject
  · refine ⟨y, hy, length_inOrder_cons (fun heq => hne (hsubject.trans heq.symm)) ?_⟩
    rw [← hqualified]
    exact hfirst
  · exact ⟨x, hx, length_inOrder_cons hsubject hfirst⟩

/-- Templates for entry points that are no more than a letter for each method. -/
def counting : ClassWriter where
  templates := (TemplateSet.default.set .assertionsClass Hole.entryPoints.token).set
    .assertionMethod "m"
  package := none

theorem method_counting (package : Option String) (s : Surface) : method "m" package s = "m" := by
  have hfixed : ∀ e : Hole × String, Filling.fillHole ['m'] e = ['m'] := by
    intro e
    have hmem : '$' ∈ e.1.token.toList := by simp [Hole.token]
    exact replaceAll_eq_self hmem (by decide) _
  rw [method, Filling.fill]
  exact congrArg String.ofList (List.foldl_fixed' hfixed _)

/-- The methods take the place of the template for the class. -/
theorem fill_counting (package methods : String) :
    (Filling.ofList [(.package, package), (.entryPoints, methods)]).fill
      Hole.entryPoints.token = methods := by
  have hfirst : Filling.fillHole Hole.entryPoints.token.toList (.package, package) =
      Hole.entryPoints.token.toList := by
    -- The name of the other hole has a letter that this one lacks.
    have hmem : 'k' ∈ Hole.package.token.toList := by decide
    exact replaceAll_eq_self hmem (by decide) _
  have hlast : Filling.fillHole Hole.entryPoints.token.toList (.entryPoints, methods) =
      methods.toList := by
    have hreplace := @replaceAll_append Hole.entryPoints.token.toList (by decide) methods.toList []
    rw [List.append_nil] at hreplace
    exact hreplace.trans (List.append_nil _)
  change String.ofList ([(Hole.package, package), (.entryPoints, methods)].foldl Filling.fillHole
    Hole.entryPoints.token.toList) = methods
  rw [List.foldl_cons, List.foldl_cons, List.foldl_nil, hfirst, hlast, String.ofList_toList]

theorem source_counting (ss : List Surface) : source counting ss .standard =
    .ok (String.ofList (List.replicate (inOrder ss).length 'm')) := by
  have hmethods : String.join ((inOrder ss).map (method "m" none)) =
      String.ofList (List.replicate (inOrder ss).length 'm') := by
    induction inOrder ss with
    | nil => rfl
    | cons s ss ih =>
      rw [List.map_cons, String.join_cons, ih, method_counting, List.length_cons,
        List.replicate_succ, ← List.singleton_append, String.ofList_append]
  by_cases hne : ss = []
  · rw [hne]
    simp [source, inOrder, dropRepeats]
  · have hadapt : ∀ package, ClassWriter.adaptPackage package Hole.entryPoints.token =
        Hole.entryPoints.token := by
      intro package
      rw [ClassWriter.adaptPackage]
      split
      · decide +kernel
      · rfl
    have hclass : counting.template EntryPointMode.standard.classRole =
      .ok Hole.entryPoints.token := rfl
    have hmethod : counting.template EntryPointMode.standard.methodRole = .ok "m" := rfl
    have hpackage : counting.package = none := rfl
    rw [source_eq_of_template hne hclass hmethod, hadapt, classFilling, fill_counting, hpackage,
      hmethods]

/-- Entry points of the same subjects are the same, with one method for each of them in the order
    of their dotted names, exactly if no two of the subjects have one dotted name. -/
theorem tellsApart_iff (ss : List Surface) : TellsApart ss ↔ ∃ ns, IsMethodOrder ss ns ∧
    ∀ ss', SameSubjects ss ss' → ∀ w mode, source w ss' mode = sourceOf w ns mode := by
  constructor
  · intro h
    have horder := isMethodOrder_inOrder h
    refine ⟨_, horder, fun ss' hsame w mode => ?_⟩
    have horder' := isMethodOrder_inOrder (h.congr hsame)
    rw [source_eq_sourceOf, horder'.eq (h.congr hsame) (horder.congr hsame)]
  · rintro ⟨ns, -, hsource⟩
    by_contra h
    obtain ⟨s, hs, hlength⟩ := exists_length_inOrder h
    have hmem : s.subject ∈ ss.map (·.subject) := List.mem_map_of_mem hs
    have hsame : SameSubjects ss (s :: ss) := by
      intro n
      rw [List.map_cons, List.mem_cons]
      exact ⟨.inr, fun hn => hn.elim (fun heq => heq ▸ hmem) id⟩
    have hself : SameSubjects ss ss := fun _ => Iff.rfl
    -- Both sources count the methods, and there is one more of them in the first.
    have heq := (hsource _ hsame counting .standard).trans (hsource _ hself counting .standard).symm
    rw [source_counting, source_counting, Except.ok.injEq, String.ofList_inj] at heq
    have hlengths := congrArg List.length heq
    rw [List.length_replicate, List.length_replicate, hlength] at hlengths
    omega

/-- A class in one whose name has no capital. -/
def lowerNested : Surface := .bare ⟨"a", ["b"], "C"⟩

/-- A class in a package that is named like the class around the other one. -/
def inPackage : Surface := .bare ⟨"a.b", [], "C"⟩

theorem lowerNested_ne_inPackage : lowerNested.subject ≠ inPackage.subject := by decide

/-- Surfaces of one dotted name stay in their order. -/
theorem inOrder_of_qualified {n : String} (h : ∀ s ∈ ss, s.subject.qualified = n) :
    inOrder ss = dropRepeats (·.subject) ss := by
  refine congrArg _ (List.mergeSort_of_pairwise (List.pairwise_of_forall_mem_list ?_))
  intro s hs t ht
  rw [h s hs, h t ht, isLE_compare_iff]

/-- Where two subjects have one dotted name, mentioning one of them again makes for a method
    more. -/
theorem exists_source_ne : ∃ (w : ClassWriter) (ss ss' : List Surface),
    (∀ s ∈ ss ++ ss', ∃ text, QualifiedName.parse? text = some s.subject) ∧
      SameSubjects ss ss' ∧ source w ss .standard = .ok "mm" ∧
      source w ss' .standard = .ok "mmm" := by
  have hnested : QualifiedName.parse? "a.b$C" = some lowerNested.subject := by decide
  have htop : QualifiedName.parse? "a.b.C" = some inPackage.subject := by decide
  have hne := lowerNested_ne_inPackage
  refine ⟨counting, [lowerNested, inPackage], [lowerNested, inPackage, lowerNested], ?_, ?_, ?_, ?_⟩
  · intro s hs
    have hs : s = lowerNested ∨ s = inPackage := by
      simp only [List.cons_append, List.nil_append, List.mem_cons, List.not_mem_nil] at hs
      tauto
    rcases hs with rfl | rfl
    · exact ⟨_, hnested⟩
    · exact ⟨_, htop⟩
  · intro n
    simp only [List.map_cons, List.map_nil, List.mem_cons, List.not_mem_nil]
    tauto
  · rw [source_counting, inOrder_of_qualified (n := "a.b.C") (by decide)]
    simp [dropRepeats, hne]
  · rw [source_counting, inOrder_of_qualified (n := "a.b.C") (by decide)]
    simp [dropRepeats, hne, hne.symm]

end EntryPoint
end AssertionWriter
