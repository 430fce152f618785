/-
  AssertionWriter.Proofs.QualifiedName.Order

  The order of names is transitive whatever the names are. Between well-formed names it
  tells any two apart: no class has a dot in its name, so the classes can be had back from
  the dotted chain that the order compares. So no two of them are taken for one where names
  are sorted, thinned out or kept in a search tree.
-/
import AssertionWriter.Proofs.QualifiedName.Dotted
import AssertionWriter.Proofs.Repeats
import Mathlib.Data.List.Sort

namespace AssertionWriter.QualifiedName
open Text

variable {n m : QualifiedName}

/-- The package decides first, and then the chain of classes. -/
theorem compare_eq_compareLex :
    QualifiedName.compare = compareLex (compareOn package) (compareOn outerQualified) := rfl

instance : Std.TransOrd QualifiedName := by
  show Std.TransCmp QualifiedName.compare
  rw [compare_eq_compareLex]
  infer_instance

/-! ## Names apart -/

theorem eq_of_chain_eq (hpackage : n.package = m.package) (hchain : n.chain = m.chain) :
    n = m := by
  obtain ⟨package, enclosing, simple⟩ := n
  obtain ⟨package', enclosing', simple'⟩ := m
  have hclasses : enclosing ++ [simple] = enclosing' ++ [simple'] :=
    (List.map_inj_right fun _ _ => String.toList_inj.1).1 hchain
  obtain ⟨rfl, hsimple⟩ := List.append_inj' hclasses rfl
  obtain rfl : package = package' := hpackage
  obtain rfl := List.singleton_inj.1 hsimple
  rfl

/-- The chain of classes is what stands between the dots. -/
theorem WellFormed.splitOn_outerQualified (h : n.WellFormed) :
    splitOn '.' n.outerQualified.toList = n.chain := by
  rw [toList_outerQualified, splitOn_intercalate n.chain_ne_nil]
  exact fun k hk => not_mem_of_isPart (isPart_of_isSegment (h.chain k hk)) (by decide)

/-- No two well-formed names have the same place in the order. -/
theorem compare_eq_iff (hn : n.WellFormed) (hm : m.WellFormed) : compare n m = .eq ↔ n = m := by
  constructor
  · intro h
    obtain ⟨hpackage, houter⟩ := Ordering.then_eq_eq.1 h
    have hchain : n.chain = m.chain := by
      rw [← hn.splitOn_outerQualified, ← hm.splitOn_outerQualified,
        Std.compare_eq_iff_eq.1 houter]
    exact eq_of_chain_eq (Std.compare_eq_iff_eq.1 hpackage) hchain
  · rintro rfl
    exact Std.ReflOrd.compare_self

/-- Without a rule for the characters of classes two names can have one place. -/
example : compare (⟨"a", ["B"], "C"⟩ : QualifiedName) ⟨"a", [], "B.C"⟩ = .eq := by decide

/-! ## Names that are read -/

/-- The name is that which some text spells. -/
def IsRead (n : QualifiedName) : Prop := ∃ text, parse? text = some n

theorem IsRead.wellFormed (h : n.IsRead) : n.WellFormed := by
  obtain ⟨text, htext⟩ := h
  exact wellFormed_of_parse? htext

theorem IsRead.eq_of_isLE (hn : n.IsRead) (hm : m.IsRead) (hnm : (compare n m).isLE = true)
    (hmn : (compare m n).isLE = true) : n = m :=
  (compare_eq_iff hn.wellFormed hm.wellFormed).1 (Std.OrientedCmp.isLE_antisymm hnm hmn)

/-! ## Collections of names -/

variable {names : List QualifiedName}

theorem perm_sort (names : List QualifiedName) : (sort names).Perm names :=
  List.mergeSort_perm ..

theorem pairwise_sort (names : List QualifiedName) :
    (sort names).Pairwise fun n m => (compare n m).isLE = true :=
  pairwise_mergeSort_key compare id names

/-- No two different names among these are taken for one: they can be sorted in one way only; of
    what is sorted each of them is left once, if neighbours are dropped that are equal; and a
    search tree finds the names that it has been made of, and no others. -/
structure AreKeptApart (names : List QualifiedName) : Prop where
  perm : (sort names).Perm names
  sorted : (sort names).Pairwise fun n m => (compare n m).isLE = true
  unique : ∀ ms : List QualifiedName, ms.Perm names →
    (ms.Pairwise fun n m => (compare n m).isLE = true) → ms = sort names
  ascending : (dropRepeats id (sort names)).Pairwise fun n m => compare n m = .lt
  each : ∀ n, n ∈ dropRepeats id (sort names) ↔ n ∈ names
  found : ∀ n : QualifiedName, n.IsRead → (n ∈ Std.TreeSet.ofList names compare ↔ n ∈ names)

/-- A search tree finds what has the place of one of the names that it has been made of. -/
theorem mem_treeSet_iff {n : QualifiedName} :
    n ∈ Std.TreeSet.ofList names compare ↔ ∃ m ∈ names, compare n m = .eq := by
  let same : BEq QualifiedName := ⟨fun n m => compare n m == .eq⟩
  have hsame : @Std.LawfulBEqCmp _ same compare := ⟨by simp [BEq.beq, same]⟩
  rw [@Std.TreeSet.mem_ofList _ compare _ same hsame, @List.contains_iff_exists_mem_beq _ same]
  refine exists_congr fun m => and_congr_right fun _ => ?_
  show (compare n m == .eq) = true ↔ compare n m = .eq
  exact beq_iff_eq

theorem areKeptApart (h : ∀ n ∈ names, n.IsRead) : AreKeptApart names := by
  have hsorted : ∀ n ∈ sort names, n.IsRead := fun n hn => h n ((perm_sort names).mem_iff.1 hn)
  refine ⟨perm_sort names, pairwise_sort names, fun ms hms hascending => ?_, ?_, fun n => ?_,
    fun n hn => ?_⟩
  · -- Of two names that stand in both orders neither goes before the other.
    refine (hms.trans (perm_sort names).symm).eq_of_pairwise (fun n m hn hm hnm hmn => ?_)
      hascending (pairwise_sort names)
    exact IsRead.eq_of_isLE (h n (hms.mem_iff.1 hn)) (hsorted m hm) hnm hmn
  · refine pairwise_lt_dropRepeats (pairwise_sort names) fun n hn m hm heq => ?_
    exact (compare_eq_iff (hsorted n hn).wellFormed (hsorted m hm).wellFormed).1 heq
  · exact (mem_dropRepeats fun _ _ _ _ heq => heq).trans (perm_sort names).mem_iff
  · rw [mem_treeSet_iff]
    constructor
    · rintro ⟨m, hm, heq⟩
      obtain rfl := (compare_eq_iff hn.wellFormed (h m hm).wellFormed).1 heq
      exact hm
    · intro hmem
      exact ⟨n, hmem, Std.ReflOrd.compare_self⟩

/-! ## The order of names -/

/-- The names that are read are in a total order, in which no two of them have the same place, and
    so no collection takes two different ones for one. -/
theorem isLinearOrder_compare :
    IsLinearOrder {n : QualifiedName // n.IsRead} (fun n m => (compare n.1 m.1).isLE = true) ∧
      (∀ n m : QualifiedName, compare m n = (compare n m).swap) ∧
      (∀ n m : QualifiedName, n.IsRead → m.IsRead → (compare n m = .eq ↔ n = m)) ∧
      ∀ names : List QualifiedName, (∀ n ∈ names, n.IsRead) → AreKeptApart names := by
  refine ⟨?_, fun n m => Std.OrientedOrd.eq_swap,
    fun n m hn hm => compare_eq_iff hn.wellFormed hm.wellFormed, fun names => areKeptApart⟩
  exact {
    refl := fun n => Std.ReflOrd.isLE_rfl
    trans := fun n m l hnm hml => Std.TransOrd.isLE_trans hnm hml
    antisymm := fun n m hnm hmn => Subtype.ext (n.2.eq_of_isLE m.2 hnm hmn)
    total := fun n m => Bool.or_eq_true_iff.1 (isLE_key_total compare Subtype.val n m) }

/-- Two names that are written alike with dots between all their parts are kept apart. -/
theorem isLinearOrder_compare_dotted :
    ∃ n m : QualifiedName, parse? "a.b$C" = some n ∧ parse? "a.b.C" = some m ∧
      n.qualified = m.qualified ∧ compare n m ≠ .eq ∧ AreKeptApart [m, n, m] := by
  have hnested : parse? "a.b$C" = some ⟨"a", ["b"], "C"⟩ := by decide
  have hinner : parse? "a.b.C" = some ⟨"a.b", [], "C"⟩ := by decide
  refine ⟨_, _, hnested, hinner, by decide, ?_, isLinearOrder_compare.2.2.2 _ fun n hn => ?_⟩
  · intro heq
    have hsame := (isLinearOrder_compare.2.2.1 _ _ ⟨_, hnested⟩ ⟨_, hinner⟩).1 heq
    exact absurd hsame (by decide)
  · simp only [List.mem_cons, List.not_mem_nil, or_false] at hn
    rcases hn with rfl | rfl | rfl
    · exact ⟨_, hinner⟩
    · exact ⟨_, hnested⟩
    · exact ⟨_, hinner⟩

end AssertionWriter.QualifiedName
