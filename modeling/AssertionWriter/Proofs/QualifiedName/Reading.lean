/-
  AssertionWriter.Proofs.QualifiedName.Reading

  What the names look like that `parse?` reads. `WellFormed` says it of the package, the
  enclosing types and the simple name; a name read from a text is well formed, and a
  well-formed name is read back from its binary spelling.
-/
import AssertionWriter.Proofs.Text.Characters

namespace AssertionWriter.Text

/-! ## Pieces between separators -/

/-- Cutting behind a first character puts it in front of the first piece. -/
theorem splitOn_cons_of_ne {sep c : Char} (h : c ≠ sep) (cs : List Char) :
    ∃ piece pieces, splitOn sep cs = piece :: pieces ∧
      splitOn sep (c :: cs) = (c :: piece) :: pieces := by
  obtain ⟨piece, pieces, hp⟩ := List.exists_cons_of_ne_nil (splitOn_ne_nil sep cs)
  refine ⟨piece, pieces, hp, ?_⟩
  rw [splitOn, if_neg h, hp]

/-- A piece has no separator, and its characters are those of the text. -/
theorem mem_splitOn {sep : Char} {s p : List Char} (h : p ∈ splitOn sep s) :
    ∀ c ∈ p, c ≠ sep ∧ c ∈ s := by
  induction s generalizing p with
  | nil =>
    rw [splitOn, List.mem_singleton] at h
    simp [h]
  | cons c cs ih =>
    by_cases hc : c = sep
    · rw [splitOn, if_pos hc, List.mem_cons] at h
      rcases h with rfl | h
      · simp
      · intro x hx
        have hx := ih h x hx
        exact ⟨hx.1, List.mem_cons_of_mem _ hx.2⟩
    · -- The first piece is that of the rest with one more character, the others are the same.
      obtain ⟨piece, pieces, hcs, hcons⟩ := splitOn_cons_of_ne hc cs
      rw [hcons] at h
      have hmem : ∀ q ∈ piece :: pieces, ∀ x ∈ q, x ≠ sep ∧ x ∈ c :: cs := by
        intro q hq x hx
        have hx := ih (hcs ▸ hq) x hx
        exact ⟨hx.1, List.mem_cons_of_mem _ hx.2⟩
      rcases List.mem_cons.1 h with rfl | h
      · intro x hx
        rcases List.mem_cons.1 hx with rfl | hx
        · exact ⟨hc, List.mem_cons_self ..⟩
        · exact hmem piece (List.mem_cons_self ..) x hx
      · exact hmem p (List.mem_cons_of_mem _ h)

/-- A character of joined pieces is one of a piece or of what stands between them. -/
theorem mem_intercalate {sep : List Char} {pieces : List (List Char)} {c : Char}
    (h : c ∈ List.intercalate sep pieces) : c ∈ sep ∨ ∃ p ∈ pieces, c ∈ p := by
  induction pieces with
  | nil => simp at h
  | cons p ps ih =>
    cases ps with
    | nil => exact .inr ⟨p, by simp, by simpa using h⟩
    | cons q qs =>
      rw [List.intercalate_cons_cons, List.mem_append, List.mem_append] at h
      rcases h with (h | h) | h
      · exact .inr ⟨p, by simp, h⟩
      · exact .inl h
      · refine (ih h).imp_right ?_
        rintro ⟨r, hr, hcr⟩
        exact ⟨r, List.mem_cons_of_mem _ hr, hcr⟩

/-- Between the pieces in front and those behind stands a separator. -/
theorem intercalate_append {sep : Char} {ps qs : List (List Char)} (hps : ps ≠ []) (hqs : qs ≠ []) :
    List.intercalate [sep] (ps ++ qs) =
      List.intercalate [sep] ps ++ sep :: List.intercalate [sep] qs := by
  induction ps with
  | nil => exact absurd rfl hps
  | cons p ps ih =>
    cases ps with
    | nil =>
      obtain ⟨q, qs, rfl⟩ := List.exists_cons_of_ne_nil hqs
      simp
    | cons r rs =>
      rw [List.cons_append, List.cons_append, List.intercalate_cons_cons, ← List.cons_append,
        ih (by simp), List.intercalate_cons_cons]
      simp

/-- Joined pieces are joined with one more piece behind a separator. -/
theorem intercalate_append_singleton {sep : Char} {pieces : List (List Char)}
    (hne : pieces ≠ []) (p : List Char) :
    List.intercalate [sep] (pieces ++ [p]) = List.intercalate [sep] pieces ++ sep :: p := by
  rw [intercalate_append hne (by simp), List.intercalate_singleton]

/-- Pieces that are cut into one have been that one piece. -/
theorem eq_singleton_of_flatMap_splitOn {sep : Char} {pieces : List (List Char)} {s : List Char}
    (h : pieces.flatMap (splitOn sep) = [s]) : pieces = [s] := by
  cases pieces with
  | nil => exact absurd h (by simp)
  | cons p ps =>
    obtain ⟨q, qs, hq⟩ := List.exists_cons_of_ne_nil (splitOn_ne_nil sep p)
    rw [List.flatMap_cons, hq, List.cons_append, List.cons.injEq] at h
    obtain ⟨rfl, hrest⟩ := h
    obtain ⟨rfl, hps⟩ := List.append_eq_nil_iff.1 hrest
    -- Each further piece would give at least one more.
    have hlast : ps = [] := by
      cases ps with
      | nil => rfl
      | cons r rs => exact absurd (List.append_eq_nil_iff.1 hps).1 (splitOn_ne_nil sep r)
    have hp : p = q := by
      have hjoin := intercalate_splitOn sep p
      rwa [hq, List.intercalate_singleton, eq_comm] at hjoin
    rw [hp, hlast]

end AssertionWriter.Text

namespace AssertionWriter.QualifiedName
open Text

/-! ## Well-formed names -/

/-- Whether a text may name a class: a run of letters, numbers and underscores. -/
def isSegment (s : List Char) : Bool := !s.isEmpty && s.all fun c => isAlphanumeric c || c = '_'

/-- Whether a text may be a part of a package: a part of a name that starts no class chain. -/
def isPackagePart (p : List Char) : Bool := isPart p && !startsUppercase p

/-- What names look like: a package of parts between dots, and a chain of classes. -/
structure WellFormed (n : QualifiedName) : Prop where
  package : ∃ parts : List (List Char),
    n.package = String.ofList (List.intercalate ['.'] parts) ∧ ∀ p ∈ parts, isPackagePart p = true
  enclosing : ∀ e ∈ n.enclosing, isSegment e.toList = true
  simple : isSegment n.simple.toList = true

/-- The classes of a name, outermost first. -/
def chain (n : QualifiedName) : List (List Char) := (n.enclosing ++ [n.simple]).map String.toList

theorem isPart_iff {p : List Char} :
    isPart p = true ↔ p ≠ [] ∧ ∀ c ∈ p, isNameChar c = true := by
  rw [isPart, Bool.and_eq_true, Bool.not_eq_true', List.isEmpty_eq_false_iff, List.all_eq_true]

theorem isPackagePart_iff {p : List Char} :
    isPackagePart p = true ↔ isPart p = true ∧ startsUppercase p = false := by
  rw [isPackagePart, Bool.and_eq_true, Bool.not_eq_true']

theorem isPart_of_isPackagePart {p : List Char} (h : isPackagePart p = true) : isPart p = true :=
  (isPackagePart_iff.1 h).1

/-- A part has none of the characters that do not stand in names. -/
theorem not_mem_of_isPart {p : List Char} {c : Char} (h : isPart p = true)
    (hc : isNameChar c = false) : c ∉ p := by
  intro hmem
  rw [(isPart_iff.1 h).2 c hmem] at hc
  exact absurd hc (by simp)

theorem isSegment_iff {s : List Char} :
    isSegment s = true ↔ s ≠ [] ∧ ∀ c ∈ s, isNameChar c = true ∧ c ≠ '$' := by
  have hdollar : isAlphanumeric '$' = false := by decide
  simp only [isSegment, Bool.and_eq_true, Bool.not_eq_true', List.isEmpty_eq_false_iff,
    List.all_eq_true, isNameChar, Bool.or_eq_true, decide_eq_true_eq]
  refine and_congr_right fun _ => forall₂_congr fun c _ => ⟨fun h => ⟨.inl h, ?_⟩, ?_⟩
  · rintro rfl
    simp [hdollar] at h
  · rintro ⟨h, hne⟩
    exact h.resolve_right hne

theorem WellFormed.chain {n : QualifiedName} (h : n.WellFormed) :
    ∀ s ∈ n.chain, isSegment s = true := by
  intro s hs
  obtain ⟨e, he, rfl⟩ := List.mem_map.1 hs
  rcases List.mem_append.1 he with he | he
  · exact h.enclosing e he
  · rw [List.mem_singleton.1 he]
    exact h.simple

/-! ## Reading gives well-formed names -/

/-- The parts of the package are parts of the name, and none starts a class chain. -/
theorem isPackagePart_of_mem_splitPackage {parts : List (List Char)} (h : parts.all isPart = true)
    {p : List Char} (hp : p ∈ (splitPackage parts).1) : isPackagePart p = true := by
  rw [List.all_eq_true] at h
  rw [isPackagePart_iff]
  rw [splitPackage] at hp
  split at hp
  · -- The package ends in front of the first part with a capital.
    have hlow := List.all_eq_true.1 (List.all_takeWhile (p := (!startsUppercase ·))) p hp
    exact ⟨h p (List.takeWhile_subset _ hp), by simpa using hlow⟩
  · next hnone =>
    -- No part has a capital, so it does not matter which of them the package has.
    have hmem := List.dropLast_subset _ hp
    refine ⟨h p hmem, ?_⟩
    rw [List.any_eq_true] at hnone
    simpa using fun hup => hnone ⟨p, hmem, hup⟩

theorem mem_of_mem_splitPackage {parts : List (List Char)} {p : List Char}
    (hp : p ∈ (splitPackage parts).2) : p ∈ parts := by
  rw [splitPackage] at hp
  split at hp
  · exact List.dropWhile_subset _ hp
  · exact List.drop_subset _ _ hp

/-- The classes between the dollar signs of parts of a name. -/
theorem isSegment_of_mem_flatMap {classes : List (List Char)}
    (h : ∀ k ∈ classes, isPart k = true) (hne : [] ∉ classes.flatMap (splitOn '$')) :
    ∀ s ∈ classes.flatMap (splitOn '$'), isSegment s = true := by
  intro s hs
  obtain ⟨k, hk, hsk⟩ := List.mem_flatMap.1 hs
  refine isSegment_iff.2 ⟨ne_of_mem_of_not_mem hs hne, fun c hc => ?_⟩
  have hck := mem_splitOn hsk c hc
  exact ⟨(isPart_iff.1 (h k hk)).2 c hck.2, hck.1⟩

/-- A chain of classes, none of them empty, becomes the chain of the name. -/
theorem ofChain?_eq_some_iff {package classes : List (List Char)} {n : QualifiedName} :
    ofChain? package classes = some n ↔
      [] ∉ classes ∧ n.package = String.ofList (List.intercalate ['.'] package) ∧
        n.chain = classes := by
  unfold ofChain?
  constructor
  · intro h
    split at h
    · exact absurd h (by simp)
    · next hany =>
      obtain ⟨simple, hs, rfl⟩ := Option.map_eq_some_iff.1 h
      obtain ⟨outer, rfl⟩ := List.getLast?_eq_some_iff.1 hs
      refine ⟨by simpa using hany, rfl, ?_⟩
      simp [chain, Function.comp_def]
  · rintro ⟨hne, hp, rfl⟩
    rw [if_neg (by simpa using hne)]
    simp [chain, ← hp]

/-- Reading divides the parts of a name, if all of them are well formed, and makes a name of
    them. -/
theorem parse?_eq_some_iff {text : String} {n : QualifiedName} :
    parse? text = some n ↔
      (splitOn '.' (trim text.toList)).all isPart = true ∧
        ofChain? (splitPackage (splitOn '.' (trim text.toList))).1
          ((splitPackage (splitOn '.' (trim text.toList))).2.flatMap (splitOn '$')) = some n := by
  simp only [parse?, Option.ite_none_right_eq_some]

/-- A name that is read from a text is well formed. -/
theorem wellFormed_of_parse? {text : String} {n : QualifiedName} (h : parse? text = some n) :
    n.WellFormed := by
  obtain ⟨hparts, h⟩ := parse?_eq_some_iff.1 h
  obtain ⟨hne, hp, hc⟩ := ofChain?_eq_some_iff.1 h
  have hseg := isSegment_of_mem_flatMap
    (fun k hk => List.all_eq_true.1 hparts k (mem_of_mem_splitPackage hk)) hne
  rw [← hc] at hseg
  exact {
    package := ⟨_, hp, fun p => isPackagePart_of_mem_splitPackage hparts⟩
    enclosing := fun e he => hseg _ (List.mem_map_of_mem (List.mem_append_left _ he))
    simple := hseg _ (List.mem_map_of_mem (List.mem_append_right _ (List.mem_singleton.2 rfl))) }

/-! ## Reading the binary spelling -/

/-- The text of the classes of a name, with a dollar sign between two. -/
def chainText (n : QualifiedName) : List Char := List.intercalate ['$'] n.chain

theorem chain_ne_nil (n : QualifiedName) : n.chain ≠ [] := by simp [chain]

/-- The parts of a spelling: those of the package, and the classes as one. -/
theorem toList_qualify {parts : List (List Char)} (h : ∀ p ∈ parts, isPackagePart p = true)
    (s : String) :
    (qualify (String.ofList (List.intercalate ['.'] parts)) s).toList =
      List.intercalate ['.'] (parts ++ [s.toList]) := by
  rw [qualify]
  by_cases hparts : parts = []
  · simp [hparts]
  · -- A package with parts is not empty, as no part is.
    obtain ⟨p, ps, rfl⟩ := List.exists_cons_of_ne_nil hparts
    have hp : p ≠ [] := (isPart_iff.1 (isPart_of_isPackagePart (h p (List.mem_cons_self ..)))).1
    obtain ⟨c, cs, rfl⟩ := List.exists_cons_of_ne_nil hp
    rw [intercalate_append_singleton hparts]
    cases ps <;> simp

theorem toList_binary {n : QualifiedName} (h : n.WellFormed) {parts : List (List Char)}
    (hpackage : n.package = String.ofList (List.intercalate ['.'] parts))
    (hparts : ∀ p ∈ parts, isPackagePart p = true) :
    n.binary.toList = List.intercalate ['.'] (parts ++ [n.chainText]) := by
  have houter : (if ("$".intercalate n.enclosing).isEmpty then n.simple
      else "$".intercalate n.enclosing ++ "$" ++ n.simple).toList = n.chainText := by
    rw [chainText, chain, List.map_append, List.map_singleton]
    cases henc : n.enclosing with
    | nil => simp
    | cons e es =>
      -- The enclosing types are not empty, so there is a dollar sign in front of the simple name.
      have he : e.toList ≠ [] := (isSegment_iff.1 (h.enclosing e (by simp [henc]))).1
      have hne : ("$".intercalate (e :: es)).isEmpty = false := by
        rw [Bool.eq_false_iff, Ne, String.isEmpty_iff, ← String.toList_inj,
          String.toList_intercalate]
        cases es <;> simp [he]
      rw [if_neg (by simp [hne]), intercalate_append_singleton (by simp)]
      simp
  rw [binary, hpackage, toList_qualify hparts, houter]

/-- The classes of a name stand together as one part behind the package. -/
theorem splitPackage_append {parts : List (List Char)} {k : List Char}
    (h : ∀ p ∈ parts, isPackagePart p = true) : splitPackage (parts ++ [k]) = (parts, [k]) := by
  have hlow : ∀ p ∈ parts, (!startsUppercase p) = true := fun p hp => by
    rw [(isPackagePart_iff.1 (h p hp)).2, Bool.not_false]
  rw [splitPackage]
  split
  · next hany =>
    -- Only the last part can have the capital.
    have hk : startsUppercase k = true := by
      obtain ⟨p, hp, hup⟩ := List.any_eq_true.1 hany
      rcases List.mem_append.1 hp with hp | hp
      · exact absurd (hlow p hp) (by simp [hup])
      · rwa [List.mem_singleton.1 hp] at hup
    rw [List.takeWhile_append_of_pos hlow, List.dropWhile_append_of_pos hlow]
    simp [hk]
  · simp

/-- The classes of a name, with the dollar signs, make up a part. -/
theorem isPart_chainText {n : QualifiedName} (h : n.WellFormed) : isPart n.chainText = true := by
  have hseg := h.chain
  rw [isPart_iff]
  constructor
  · -- The first class is not empty.
    intro hnil
    obtain ⟨s, ss, hs⟩ := List.exists_cons_of_ne_nil n.chain_ne_nil
    have hne := (isSegment_iff.1 (hseg s (by simp [hs]))).1
    rw [chainText, hs] at hnil
    cases ss <;> simp [hne] at hnil
  · intro c hc
    rcases mem_intercalate hc with hsep | ⟨s, hs, hcs⟩
    · simp [isNameChar, List.mem_singleton.1 hsep]
    · exact ((isSegment_iff.1 (hseg s hs)).2 c hcs).1

/-- What stands between the dots of a binary spelling are parts. -/
theorem isPart_of_mem_binary {n : QualifiedName} (h : n.WellFormed) {parts : List (List Char)}
    (hparts : ∀ p ∈ parts, isPackagePart p = true) :
    ∀ p ∈ parts ++ [n.chainText], isPart p = true := by
  intro p hp
  rcases List.mem_append.1 hp with hp | hp
  · exact isPart_of_isPackagePart (hparts p hp)
  · rw [List.mem_singleton.1 hp]
    exact isPart_chainText h

/-- A spelling is made of the characters of names and of dots. -/
theorem isNameChar_or_dot_of_mem_binary {n : QualifiedName} (h : n.WellFormed) {c : Char}
    (hc : c ∈ n.binary.toList) : isNameChar c = true ∨ c = '.' := by
  obtain ⟨parts, hpackage, hparts⟩ := h.package
  rw [toList_binary h hpackage hparts] at hc
  rcases mem_intercalate hc with hsep | ⟨p, hp, hcp⟩
  · exact .inr (List.mem_singleton.1 hsep)
  · exact .inl ((isPart_iff.1 (isPart_of_mem_binary h hparts p hp)).2 c hcp)

/-- There is no white space in a spelling. -/
theorem trim_binary {n : QualifiedName} (h : n.WellFormed) :
    trim n.binary.toList = n.binary.toList := by
  refine trim_eq_self fun c hc => ?_
  rcases isNameChar_or_dot_of_mem_binary h hc with hname | rfl
  · exact isBlank_eq_false_of_isNameChar hname
  · decide

/-- A well-formed name is read back from its binary spelling. -/
theorem parse?_binary {n : QualifiedName} (h : n.WellFormed) : parse? n.binary = some n := by
  obtain ⟨parts, hpackage, hparts⟩ := h.package
  have hall := isPart_of_mem_binary h hparts
  -- There is nothing to trim, and the dots are those between the parts.
  have hdot : ∀ p ∈ parts ++ [n.chainText], '.' ∉ p := fun p hp =>
    not_mem_of_isPart (hall p hp) (by decide)
  have hsplit : splitOn '.' (trim n.binary.toList) = parts ++ [n.chainText] := by
    rw [trim_binary h, toList_binary h hpackage hparts, splitOn_intercalate (by simp) hdot]
  have hclasses : splitOn '$' n.chainText = n.chain :=
    splitOn_intercalate n.chain_ne_nil fun s hs hmem =>
      ((isSegment_iff.1 (h.chain s hs)).2 '$' hmem).2 rfl
  -- The last part alone holds classes, and the dollar signs in it are those between them.
  rw [parse?_eq_some_iff, hsplit, splitPackage_append hparts, List.flatMap_singleton, hclasses,
    ofChain?_eq_some_iff]
  exact ⟨List.all_eq_true.2 hall, fun hnil => (isSegment_iff.1 (h.chain [] hnil)).1 rfl,
    hpackage, rfl⟩

/-! ## Names of one class -/

theorem splitPackage_fst_append_snd (parts : List (List Char)) :
    (splitPackage parts).1 ++ (splitPackage parts).2 = parts := by
  rw [splitPackage]
  split
  · exact List.takeWhile_append_dropWhile
  · rw [List.dropLast_eq_take]
    exact List.take_append_drop ..

/-- A name that has no package and no enclosing types is spelled as it was written. -/
theorem binary_eq_of_parse? {text : String} {n : QualifiedName} (h : parse? text = some n)
    (hdot : '.' ∉ n.binary.toList) (hdollar : '$' ∉ n.binary.toList) :
    n.binary.toList = trim text.toList := by
  have hwf := wellFormed_of_parse? h
  obtain ⟨hparts, h⟩ := parse?_eq_some_iff.1 h
  obtain ⟨-, hpackage, hchain⟩ := ofChain?_eq_some_iff.1 h
  have hjoin := splitPackage_fst_append_snd (splitOn '.' (trim text.toList))
  have hbinary := toList_binary hwf hpackage fun p => isPackagePart_of_mem_splitPackage hparts
  -- A dot would stand behind the package, and a dollar sign behind the enclosing types.
  have hnil : (splitPackage (splitOn '.' (trim text.toList))).1 = [] := by
    refine Decidable.byContradiction fun hne => ?_
    rw [hbinary, intercalate_append_singleton hne] at hdot
    simp at hdot
  rw [hnil, List.nil_append] at hbinary hjoin
  rw [List.intercalate_singleton] at hbinary
  obtain ⟨simple, hsimple⟩ : ∃ simple, n.chain = [simple] := by
    obtain ⟨s, ss, hs⟩ := List.exists_cons_of_ne_nil n.chain_ne_nil
    cases ss with
    | nil => exact ⟨s, hs⟩
    | cons s' ss =>
      rw [hbinary, chainText, hs, List.intercalate_cons_cons] at hdollar
      simp at hdollar
  -- So there is one part, which is one class.
  rw [hjoin, hsimple, eq_comm] at hchain
  have htrim := intercalate_splitOn '.' (trim text.toList)
  rw [eq_singleton_of_flatMap_splitOn hchain, List.intercalate_singleton] at htrim
  rw [hbinary, chainText, hsimple, List.intercalate_singleton, htrim]

/-! ## Flat names -/

theorem toList_flatName (n : QualifiedName) : n.flatName.toList = n.chain.flatten := by
  rw [flatName, String.toList_join, chain, List.flatMap_def]

/-- The flat name of a well-formed name has the characters of names only. -/
theorem WellFormed.isNameChar_flatName {n : QualifiedName} (h : n.WellFormed) :
    n.flatName.toList ≠ [] ∧ ∀ c ∈ n.flatName.toList, isNameChar c = true := by
  rw [toList_flatName]
  constructor
  · obtain ⟨s, ss, hs⟩ := List.exists_cons_of_ne_nil n.chain_ne_nil
    have hne := (isSegment_iff.1 (h.chain s (by simp [hs]))).1
    simp [hs, hne]
  · intro c hc
    obtain ⟨s, hs, hcs⟩ := List.mem_flatten.1 hc
    exact ((isSegment_iff.1 (h.chain s hs)).2 c hcs).1

end AssertionWriter.QualifiedName
