/-
  AssertionWriter.Proofs.QualifiedName.Dotted

  What the two spellings of a name are read as. In the binary one the classes stand together
  behind the package, so it is always read back. With dots between the classes too, the
  reader takes for the package all that stands in front of the first capital, which is too
  much if the outermost of several classes has none.
-/
import AssertionWriter.Proofs.QualifiedName.Reading

namespace AssertionWriter.QualifiedName
open Text

/-! ## The parts of the dotted spelling -/

/-- Pieces may be joined before they are joined with others. -/
theorem intercalate_append_intercalate {sep : Char} (parts : List (List Char))
    {pieces : List (List Char)} (hne : pieces ≠ []) :
    List.intercalate [sep] (parts ++ [List.intercalate [sep] pieces]) =
      List.intercalate [sep] (parts ++ pieces) := by
  by_cases hparts : parts = []
  · simp [hparts]
  · rw [intercalate_append_singleton hparts, intercalate_append hparts hne]

theorem toList_outerQualified (n : QualifiedName) :
    n.outerQualified.toList = List.intercalate ['.'] n.chain := by
  rw [outerQualified, String.toList_intercalate]
  rfl

theorem isPart_of_isSegment {s : List Char} (h : isSegment s = true) : isPart s = true :=
  isPart_iff.2 ⟨(isSegment_iff.1 h).1, fun c hc => ((isSegment_iff.1 h).2 c hc).1⟩

/-- The dotted spelling joins the parts of the package and the classes. -/
theorem toList_qualified {n : QualifiedName} {parts : List (List Char)}
    (hpackage : n.package = String.ofList (List.intercalate ['.'] parts))
    (hparts : ∀ p ∈ parts, isPackagePart p = true) :
    n.qualified.toList = List.intercalate ['.'] (parts ++ n.chain) := by
  rw [qualified, hpackage, toList_qualify hparts, toList_outerQualified,
    intercalate_append_intercalate parts n.chain_ne_nil]

/-- Between the dots stand the parts of the package and the classes. -/
theorem splitOn_qualified {n : QualifiedName} (h : n.WellFormed) {parts : List (List Char)}
    (hpackage : n.package = String.ofList (List.intercalate ['.'] parts))
    (hparts : ∀ p ∈ parts, isPackagePart p = true) :
    splitOn '.' (trim n.qualified.toList) = parts ++ n.chain ∧
      ∀ p ∈ parts ++ n.chain, isPart p = true := by
  have hall : ∀ p ∈ parts ++ n.chain, isPart p = true := by
    intro p hp
    rcases List.mem_append.1 hp with hp | hp
    · exact isPart_of_isPackagePart (hparts p hp)
    · exact isPart_of_isSegment (h.chain p hp)
  have htext := toList_qualified hpackage hparts
  have htrim : trim n.qualified.toList = n.qualified.toList := by
    refine trim_eq_self fun c hc => ?_
    rw [htext] at hc
    rcases mem_intercalate hc with hdot | ⟨p, hp, hcp⟩
    · rw [List.mem_singleton.1 hdot]
      decide
    · exact isBlank_eq_false_of_isNameChar ((isPart_iff.1 (hall p hp)).2 c hcp)
  refine ⟨?_, hall⟩
  rw [htrim, htext, splitOn_intercalate (by simp [n.chain_ne_nil])]
  exact fun p hp => not_mem_of_isPart (hall p hp) (by decide)

/-! ## Where the package ends -/

/-- A class with a capital ends the package in front of it. -/
theorem splitPackage_append_cons {parts ks : List (List Char)} {k : List Char}
    (h : ∀ p ∈ parts, isPackagePart p = true) (hk : startsUppercase k = true) :
    splitPackage (parts ++ k :: ks) = (parts, k :: ks) := by
  have hlow : ∀ p ∈ parts, (!startsUppercase p) = true := fun p hp => by
    rw [(isPackagePart_iff.1 (h p hp)).2, Bool.not_false]
  rw [splitPackage, if_pos (by simp [hk]), List.takeWhile_append_of_pos hlow,
    List.dropWhile_append_of_pos hlow]
  simp [hk]

/-- A class without a capital goes to the package, if another class follows. -/
theorem splitPackage_snd_suffix {parts ks : List (List Char)} {k : List Char}
    (h : ∀ p ∈ parts, isPackagePart p = true) (hk : startsUppercase k = false) (hks : ks ≠ []) :
    (splitPackage (parts ++ k :: ks)).2 <:+ ks := by
  have hlow : ∀ p ∈ parts ++ [k], (!startsUppercase p) = true := by
    intro p hp
    rcases List.mem_append.1 hp with hp | hp
    · rw [(isPackagePart_iff.1 (h p hp)).2, Bool.not_false]
    · rw [List.mem_singleton.1 hp, hk, Bool.not_false]
  rw [List.append_cons, splitPackage]
  split
  · rw [List.dropWhile_append_of_pos hlow]
    exact List.dropWhile_suffix _
  · -- Without any capital only the last class is left.
    have hlen := List.length_pos_iff.2 hks
    obtain ⟨i, hi⟩ : ∃ i, (parts ++ [k] ++ ks).length - 1 = (parts ++ [k]).length + i :=
      ⟨ks.length - 1, by simp only [List.length_append]; omega⟩
    rw [hi, List.drop_length_add_append]
    exact List.drop_suffix ..

theorem flatMap_splitOn_of_isSegment {ks : List (List Char)} (h : ∀ k ∈ ks, isSegment k = true) :
    ks.flatMap (splitOn '$') = ks := by
  induction ks with
  | nil => rfl
  | cons k ks ih =>
    have hdollar : '$' ∉ k := fun hmem =>
      ((isSegment_iff.1 (h k (List.mem_cons_self ..))).2 '$' hmem).2 rfl
    rw [List.flatMap_cons, splitOn_of_not_mem hdollar,
      ih fun k' hk' => h k' (List.mem_cons_of_mem _ hk'), List.singleton_append]

/-! ## Reading the dotted spelling -/

variable {n : QualifiedName}

/-- Whether the name is not nested, or the outermost class around it starts with a capital. -/
def StartsChain (n : QualifiedName) : Prop :=
  n.isNested = false ∨ ∃ outer ∈ n.enclosing.head?, startsUppercase outer.toList = true

/-- A name is read back if the package ends at the right place. -/
theorem parse?_qualified_of_splitPackage (h : n.WellFormed) {parts : List (List Char)}
    (hpackage : n.package = String.ofList (List.intercalate ['.'] parts))
    (hparts : ∀ p ∈ parts, isPackagePart p = true)
    (hends : splitPackage (parts ++ n.chain) = (parts, n.chain)) :
    parse? n.qualified = some n := by
  obtain ⟨hsplit, hall⟩ := splitOn_qualified h hpackage hparts
  rw [parse?_eq_some_iff, hsplit, hends, flatMap_splitOn_of_isSegment h.chain,
    ofChain?_eq_some_iff]
  exact ⟨List.all_eq_true.2 hall, fun hnil => (isSegment_iff.1 (h.chain [] hnil)).1 rfl,
    hpackage, rfl⟩

/-- If the outermost class goes to the package, the name that is read lacks a class. -/
theorem parse?_qualified_ne (h : n.WellFormed) {k : List Char} {ks : List (List Char)}
    (hchain : n.chain = k :: ks) (hk : startsUppercase k = false) (hks : ks ≠ []) :
    parse? n.qualified ≠ some n := by
  intro hparse
  obtain ⟨parts, hpackage, hparts⟩ := h.package
  obtain ⟨hsplit, -⟩ := splitOn_qualified h hpackage hparts
  obtain ⟨-, hof⟩ := parse?_eq_some_iff.1 hparse
  obtain ⟨-, -, hclasses⟩ := ofChain?_eq_some_iff.1 hof
  rw [hsplit, hchain] at hclasses
  have hsuffix := splitPackage_snd_suffix hparts hk hks
  have hseg := h.chain
  rw [hchain] at hseg
  rw [flatMap_splitOn_of_isSegment fun s hs =>
    hseg s (List.mem_cons_of_mem _ (hsuffix.subset hs))] at hclasses
  have hle := hsuffix.length_le
  rw [← hclasses, List.length_cons] at hle
  omega

theorem parse?_qualified_iff (h : n.WellFormed) :
    parse? n.qualified = some n ↔ n.StartsChain := by
  obtain ⟨parts, hpackage, hparts⟩ := h.package
  cases henc : n.enclosing with
  | nil =>
    have hchain : n.chain = [n.simple.toList] := by simp [chain, henc]
    have hends : splitPackage (parts ++ n.chain) = (parts, n.chain) := by
      rw [hchain]
      exact splitPackage_append hparts
    have hstart : n.StartsChain := .inl (by simp [isNested, henc])
    exact iff_of_true (parse?_qualified_of_splitPackage h hpackage hparts hends) hstart
  | cons outer inner =>
    have hchain : n.chain = outer.toList :: (inner ++ [n.simple]).map String.toList := by
      simp [chain, henc]
    have hstart : n.StartsChain ↔ startsUppercase outer.toList = true := by
      simp [StartsChain, isNested, henc]
    rw [hstart]
    constructor
    · intro hparse
      rw [← Bool.not_eq_false]
      exact fun hlow => parse?_qualified_ne h hchain hlow (by simp) hparse
    · intro hup
      refine parse?_qualified_of_splitPackage h hpackage hparts ?_
      rw [hchain]
      exact splitPackage_append_cons hparts hup

/-- The names that can be read are the well-formed ones. Each is read from its binary spelling,
    and from the dotted one exactly if it is not nested or its outermost class has a capital. -/
theorem exists_parse?_eq_some_iff (n : QualifiedName) :
    ((∃ text, parse? text = some n) ↔ n.WellFormed) ∧
      (parse? n.binary = some n ↔ n.WellFormed) ∧
      (parse? n.qualified = some n ↔ n.WellFormed ∧ n.StartsChain) := by
  refine ⟨⟨?_, fun h => ⟨_, parse?_binary h⟩⟩, ⟨wellFormed_of_parse?, parse?_binary⟩, ?_⟩
  · rintro ⟨text, h⟩
    exact wellFormed_of_parse? h
  · constructor
    · intro h
      have hwf := wellFormed_of_parse? h
      exact ⟨hwf, (parse?_qualified_iff hwf).1 h⟩
    · rintro ⟨hwf, h⟩
      exact (parse?_qualified_iff hwf).2 h

end AssertionWriter.QualifiedName
