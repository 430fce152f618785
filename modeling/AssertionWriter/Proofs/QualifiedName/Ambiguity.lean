/-
  AssertionWriter.Proofs.QualifiedName.Ambiguity

  When the references to two types are one text. A reference leaves the package out where
  the type is in scope, and has a dot in front of every class and of every part of a
  package. So a type of the package that code is placed in may shadow one that is always in
  scope, and the classes around a type may obscure parts of a package. Any other two
  references differ.
-/
import AssertionWriter.Proofs.Files.Paths
import AssertionWriter.Proofs.QualifiedName.Order

namespace AssertionWriter.QualifiedName
open Files Text

variable {n m : QualifiedName} {context : String}

/-! ## The parts of a reference -/

/-- The parts of the package that stand in a reference to the name: none if it is in scope. -/
def spelledPackage (n : QualifiedName) (context : String) : List (List Char) :=
  if n.isBuiltIn || n.package = context then [] else packageParts n.package

/-- Between the dots of a reference stand the parts of the package, if any, and the classes. -/
theorem WellFormed.splitOn_referenceFrom (h : n.WellFormed) (context : String) :
    splitOn '.' (n.referenceFrom context).toList = n.spelledPackage context ++ n.chain := by
  rw [referenceFrom, spelledPackage]
  split
  · exact h.splitOn_outerQualified
  · obtain ⟨hpackage, hparts⟩ := h.packageParts_eq
    have hall := (splitOn_qualified h hpackage hparts).2
    rw [toList_qualified hpackage hparts, splitOn_intercalate (by simp [n.chain_ne_nil])]
    exact fun p hp => not_mem_of_isPart (hall p hp) (by decide)

/-- No dot stands inside a part, so references are as different as what they are made of. -/
theorem WellFormed.referenceFrom_inj (hn : n.WellFormed) (hm : m.WellFormed) :
    n.referenceFrom context = m.referenceFrom context ↔
      n.spelledPackage context ++ n.chain = m.spelledPackage context ++ m.chain := by
  rw [← hn.splitOn_referenceFrom, ← hm.splitOn_referenceFrom]
  constructor
  · intro h
    rw [h]
  · intro h
    rw [← String.toList_inj, ← intercalate_splitOn '.' (n.referenceFrom context).toList, h,
      intercalate_splitOn]

/-! ## Names in scope -/

/-- A type of a named package is no primitive one, so only its package can make it built in. -/
theorem isBuiltIn_iff (hnamed : n.package ≠ "") :
    n.isBuiltIn = true ↔ n.package = builtInPackage := by
  have hprimitive : n.isPrimitive = false := by
    rw [isPrimitive, primitive?, Option.isSome_eq_false_iff, Option.isNone_iff_eq_none,
      List.find?_eq_none]
    intro p _ h
    rw [of_decide_eq_true h] at hnamed
    exact hnamed rfl
  rw [isBuiltIn, hprimitive, Bool.false_or, decide_eq_true_eq]

/-- A reference has no package exactly if the type is always in scope, or is one of the package
    that the code is placed in. -/
theorem WellFormed.spelledPackage_eq_nil_iff (h : n.WellFormed) (hnamed : n.package ≠ "") :
    n.spelledPackage context = [] ↔ n.package = builtInPackage ∨ n.package = context := by
  have hparts : packageParts n.package ≠ [] := by
    intro hnil
    have hpackage := h.packageParts_eq.1
    rw [hnil] at hpackage
    exact hnamed hpackage
  rw [← isBuiltIn_iff hnamed, spelledPackage]
  split
  · next hscope => simpa using hscope
  · next hscope => simpa [hparts] using hscope

/-- A reference has all parts of the package or none. -/
theorem spelledPackage_of_ne_nil (h : n.spelledPackage context ≠ []) :
    n.spelledPackage context = packageParts n.package := by
  rw [spelledPackage] at h ⊢
  split
  · next hscope => exact absurd (if_pos hscope) h
  · rfl

/-- No part of a package that stands in a reference starts with a capital. -/
theorem WellFormed.startsUppercase_of_mem_spelledPackage (h : n.WellFormed) {p : List Char}
    (hp : p ∈ n.spelledPackage context) : startsUppercase p = false := by
  rw [spelledPackage_of_ne_nil (List.ne_nil_of_mem hp)] at hp
  exact (isPackagePart_iff.1 (h.packageParts_eq.2 p hp)).2

/-! ## References that are the same -/

/-- Both names are in scope and the same there, the one of a type in the package of the code, the
    other of a type that is always in scope. -/
structure Shadows (n m : QualifiedName) (context : String) : Prop where
  inContext : n.package = context
  builtIn : m.package = builtInPackage
  outerQualified : n.outerQualified = m.outerQualified

/-- The outermost classes of the one name stand where a reference to the other has the last parts of
    its package. -/
def Obscures (n m : QualifiedName) (context : String) : Prop :=
  ∃ outer ≠ [], n.chain = outer ++ m.chain ∧
    m.spelledPackage context = n.spelledPackage context ++ outer

/-- Two names with the same classes are told apart by their packages alone, so neither reference
    has one. -/
theorem WellFormed.shadows_of_chain_eq (hn : n.WellFormed) (hm : m.WellFormed)
    (hnamed : n.package ≠ "") (hnamed' : m.package ≠ "") (hne : n ≠ m)
    (hspelled : n.spelledPackage context = m.spelledPackage context) (hchain : n.chain = m.chain) :
    n.Shadows m context ∨ m.Shadows n context := by
  have hpackage : n.package ≠ m.package := fun h => hne (eq_of_chain_eq h hchain)
  have houter : n.outerQualified = m.outerQualified := by
    rw [← String.toList_inj, toList_outerQualified, toList_outerQualified, hchain]
  by_cases hnil : n.spelledPackage context = []
  · rcases (hn.spelledPackage_eq_nil_iff hnamed).1 hnil with hn' | hn' <;>
      rcases (hm.spelledPackage_eq_nil_iff hnamed').1 (hspelled ▸ hnil) with hm' | hm'
    · exact absurd (hn'.trans hm'.symm) hpackage
    · exact .inr ⟨hm', hn', houter.symm⟩
    · exact .inl ⟨hn', hm', houter⟩
    · exact absurd (hn'.trans hm'.symm) hpackage
  · have hparts : packageParts n.package = packageParts m.package := by
      rw [← spelledPackage_of_ne_nil hnil, hspelled, spelledPackage_of_ne_nil (hspelled ▸ hnil)]
    exact absurd ((hn.packageParts_inj hm).1 hparts) hpackage

/-- Where the same parts make up two references, those that are part of the package in the one and
    classes in the other make the difference; there may be none. -/
theorem WellFormed.shadows_or_obscures (hn : n.WellFormed) (hm : m.WellFormed)
    (hnamed : n.package ≠ "") (hnamed' : m.package ≠ "") (hne : n ≠ m) {outer : List (List Char)}
    (hspelled : m.spelledPackage context = n.spelledPackage context ++ outer)
    (hchain : n.chain = outer ++ m.chain) :
    n.Shadows m context ∨ m.Shadows n context ∨ n.Obscures m context := by
  by_cases houter : outer = []
  · rw [houter, List.append_nil] at hspelled
    rw [houter, List.nil_append] at hchain
    exact (hn.shadows_of_chain_eq hm hnamed hnamed' hne hspelled.symm hchain).imp_right .inl
  · exact .inr (.inr ⟨outer, houter, hchain, hspelled⟩)

theorem Shadows.referenceFrom_eq (h : n.Shadows m context) :
    n.referenceFrom context = m.referenceFrom context := by
  have hn : (n.isBuiltIn || n.package = context) = true := by simp [h.inContext]
  have hm : (m.isBuiltIn || m.package = context) = true := by simp [isBuiltIn, h.builtIn]
  rw [referenceFrom, referenceFrom, if_pos hn, if_pos hm, h.outerQualified]

theorem Obscures.referenceFrom_eq (h : n.Obscures m context) (hn : n.WellFormed)
    (hm : m.WellFormed) : n.referenceFrom context = m.referenceFrom context := by
  obtain ⟨outer, -, hchain, hspelled⟩ := h
  rw [hn.referenceFrom_inj hm, hchain, hspelled, List.append_assoc]

/-- A class that stands where a part of a package does has no capital, and another class follows. -/
theorem Obscures.not_startsChain (h : n.Obscures m context) (hm : m.WellFormed) :
    ¬n.StartsChain := by
  obtain ⟨outer, hne, hchain, hspelled⟩ := h
  obtain ⟨k, ks, rfl⟩ := List.exists_cons_of_ne_nil hne
  have hlow : startsUppercase k = false :=
    hm.startsUppercase_of_mem_spelledPackage (by rw [hspelled]; simp)
  cases henc : n.enclosing with
  | nil =>
    have hpos := List.length_pos_iff.2 m.chain_ne_nil
    have hlength : n.chain.length = 1 := by simp [chain, henc]
    rw [hchain, List.length_append, List.length_cons] at hlength
    omega
  | cons e es =>
    have hhead : e.toList = k := by
      rw [chain, henc] at hchain
      exact (List.cons.inj hchain).1
    simp [StartsChain, isNested, henc, hhead, hlow]

/-- Two names that are read from texts, of types in named packages, have the same reference exactly
    if one shadows or obscures the other. The latter happens only to names that are nested in a
    class without a capital. -/
theorem referenceFrom_eq_iff {s t : String} (hs : parse? s = some n) (ht : parse? t = some m)
    (hnamed : n.package ≠ "") (hnamed' : m.package ≠ "") (hne : n ≠ m) (context : String) :
    (n.referenceFrom context = m.referenceFrom context ↔
      n.Shadows m context ∨ m.Shadows n context ∨ n.Obscures m context ∨ m.Obscures n context) ∧
      (n.Obscures m context → ¬n.StartsChain) ∧ (m.Obscures n context → ¬m.StartsChain) := by
  have hn := wellFormed_of_parse? hs
  have hm := wellFormed_of_parse? ht
  refine ⟨⟨fun h => ?_, ?_⟩, fun h => h.not_startsChain hm, fun h => h.not_startsChain hn⟩
  · rcases List.append_eq_append_iff.1 ((hn.referenceFrom_inj hm).1 h) with
      ⟨outer, hspelled, hchain⟩ | ⟨outer, hspelled, hchain⟩
    · rcases hn.shadows_or_obscures hm hnamed hnamed' hne hspelled hchain with h | h | h
      · exact .inl h
      · exact .inr (.inl h)
      · exact .inr (.inr (.inl h))
    · rcases hm.shadows_or_obscures hn hnamed' hnamed hne.symm hspelled hchain with h | h | h
      · exact .inr (.inl h)
      · exact .inl h
      · exact .inr (.inr (.inr h))
  · rintro (h | h | h | h)
    · exact h.referenceFrom_eq
    · exact h.referenceFrom_eq.symm
    · exact h.referenceFrom_eq hn hm
    · exact (h.referenceFrom_eq hm hn).symm

/-- A class around the one type has the name of the package of the other. -/
theorem referenceFrom_eq_iff_lowerOuter :
    let n : QualifiedName := ⟨"com.acme", ["foo"], "Bar"⟩
    let m : QualifiedName := ⟨"foo", [], "Bar"⟩
    parse? "com.acme.foo$Bar" = some n ∧ parse? "foo.Bar" = some m ∧ n.package ≠ "" ∧
      m.package ≠ "" ∧ n ≠ m ∧ n.referenceFrom "com.acme" = "foo.Bar" ∧
      m.referenceFrom "com.acme" = "foo.Bar" ∧
      (n.Shadows m "com.acme" ∨ m.Shadows n "com.acme" ∨ n.Obscures m "com.acme" ∨
        m.Obscures n "com.acme") ∧
      (n.Obscures m "com.acme" → ¬n.StartsChain) := by
  intro n m
  have hn : parse? "com.acme.foo$Bar" = some n := by decide
  have hm : parse? "foo.Bar" = some m := by decide
  have hnamed : n.package ≠ "" := by decide
  have hnamed' : m.package ≠ "" := by decide
  have hne : n ≠ m := by decide
  have hnref : n.referenceFrom "com.acme" = "foo.Bar" := by decide
  have hmref : m.referenceFrom "com.acme" = "foo.Bar" := by decide
  obtain ⟨hiff, hobscures, -⟩ := referenceFrom_eq_iff hn hm hnamed hnamed' hne "com.acme"
  exact ⟨hn, hm, hnamed, hnamed', hne, hnref, hmref, hiff.1 (hnref.trans hmref.symm), hobscures⟩

/-- The simple name of a type that is always in scope may be that of one in the package of the
    code. -/
theorem exists_referenceFrom_eq :
    ∃ n m : QualifiedName, parse? "com.acme.String" = some n ∧ parse? "java.lang.String" = some m ∧
      n.package ≠ "" ∧ m.package ≠ "" ∧ n ≠ m ∧
      n.referenceFrom "com.acme" = "String" ∧ m.referenceFrom "com.acme" = "String" :=
  ⟨⟨"com.acme", [], "String"⟩, ⟨"java.lang", [], "String"⟩, by decide, by decide, by decide,
    by decide, by decide, by decide, by decide⟩

end AssertionWriter.QualifiedName
