/-
  AssertionWriter.Proofs.JavaType.Malformed

  What a signature with malformed arguments is taken for. The raw type is the name in front
  of the first opening bracket; its arrays are counted off the end of the text, wherever the
  brackets there belong. So a list that is closed leaves its brackets to its arguments, and
  one that is never closed gives up those at its end.
-/
import AssertionWriter.Proofs.JavaType.Acceptance
import Mathlib.Data.List.TakeWhile

namespace AssertionWriter

namespace Text

/-! ## White space at the ends -/

theorem trimStart_append_cons {c : Char} (h : isBlank c = false) (s t : List Char) :
    trimStart (s ++ c :: t) = trimStart s ++ c :: t := by
  rw [trimStart, List.dropWhile_append]
  split
  · next hempty =>
    rw [trimStart, List.isEmpty_iff.1 hempty, List.nil_append]
    exact trimStart_cons h t
  · rfl

theorem reverse_trimEnd (s : List Char) : (trimEnd s).reverse = trimStart s.reverse := by
  rw [trimEnd, List.reverse_reverse]
  rfl

theorem trimEnd_append_cons {c : Char} (h : isBlank c = false) (s t : List Char) :
    trimEnd (s ++ c :: t) = s ++ c :: trimEnd t := by
  rw [← List.reverse_inj, reverse_trimEnd]
  simp [trimStart_append_cons h, reverse_trimEnd]

theorem trimEnd_append_blanks {c : Char} (h : isBlank c = false) (s : List Char)
    {blanks : List Char} (hblanks : ∀ c ∈ blanks, isBlank c = true) :
    trimEnd (s ++ c :: blanks) = s ++ [c] := by
  have hnil : trimStart blanks.reverse = [] :=
    List.dropWhile_eq_nil_iff.2 fun c hc => hblanks c (List.mem_reverse.1 hc)
  have hend : trimEnd blanks = [] := congrArg List.reverse hnil
  rw [trimEnd_append_cons h, hend]

/-- What is cut from the end of a text is white space. -/
theorem exists_eq_trimEnd_append (s : List Char) :
    ∃ blanks : List Char, (∀ c ∈ blanks, isBlank c = true) ∧ s = trimEnd s ++ blanks := by
  refine ⟨(s.reverse.takeWhile isBlank).reverse, fun c hc => ?_, ?_⟩
  · exact List.all_eq_true.1 List.all_takeWhile c (List.mem_reverse.1 hc)
  · rw [trimEnd, ← List.reverse_append, List.takeWhile_append_dropWhile, List.reverse_reverse]

end Text

open Text

namespace QualifiedName

/-- The white space in front of a name does not matter. -/
theorem parse?_trimStart (n : String) : parse? (String.ofList (trimStart n.toList)) = parse? n := by
  have htrim : trim (trimStart n.toList) = trim n.toList := by
    rw [trim, JavaType.trimStart_trimStart, ← trim]
  rw [parse?, String.toList_ofList, htrim, ← parse?]

/-- A text that is read as a name has the characters of names only, dots and white space apart. -/
theorem isNameChar_of_parse? {text : String} {n : QualifiedName} (h : parse? text = some n) :
    ∀ c ∈ trimStart text.toList, isNameChar c = true ∨ c = '.' ∨ isBlank c = true := by
  intro c hc
  obtain ⟨blanks, hblanks, hsplit⟩ := exists_eq_trimEnd_append (trimStart text.toList)
  rw [hsplit, List.mem_append] at hc
  rcases hc with hc | hc
  · rw [← trim, ← intercalate_splitOn '.' (trim text.toList)] at hc
    rcases mem_intercalate hc with hdot | ⟨p, hp, hcp⟩
    · exact .inr (.inl (List.mem_singleton.1 hdot))
    · have hpart := List.all_eq_true.1 (parse?_eq_some_iff.1 h).1 p hp
      exact .inl ((isPart_iff.1 hpart).2 c hcp)
  · exact .inr (.inr (hblanks c hc))

theorem angle_not_mem_of_parse? {text : String} {n : QualifiedName} (h : parse? text = some n) :
    '<' ∉ trimStart text.toList := by
  intro hc
  rcases isNameChar_of_parse? h '<' hc with h | h | h <;> exact absurd h (by decide)

end QualifiedName

namespace JavaType

/-! ## Brackets at the end -/

/-- `s` is `front` and then `n` pairs of array brackets, with white space around each, and `front`
    ends with no further pair. -/
inductive Trailing : List Char → List Char → Nat → Prop where
  | none {s : List Char} : ¬['[', ']'] <:+ trimEnd s → Trailing s s 0
  | more {s front blanks : List Char} {n : Nat} :
      Trailing s front n → (∀ c ∈ blanks, isBlank c = true) →
      Trailing (s ++ '[' :: ']' :: blanks) front (n + 1)

/-- A text ends with some number of pairs. -/
theorem exists_trailing (s : List Char) : ∃ front n, Trailing s front n := by
  by_cases h : ['[', ']'] <:+ trimEnd s
  · -- The pair at the end is taken off, and the white space behind it.
    obtain ⟨t, ht⟩ := h
    obtain ⟨blanks, hblanks, hs⟩ := exists_eq_trimEnd_append s
    rw [← ht, List.append_assoc] at hs
    have hlength : t.length < s.length := by
      rw [hs]
      simp
    obtain ⟨front, n, hn⟩ := exists_trailing t
    exact ⟨front, n + 1, hs ▸ hn.more hblanks⟩
  · exact ⟨s, 0, .none h⟩
termination_by s.length

/-- Whatever stands in front of an opening bracket has no part in the pairs at the end. -/
theorem Trailing.append_left {s front : List Char} {n : Nat} (h : Trailing s front n)
    (lead : List Char) : Trailing (lead ++ '<' :: s) (lead ++ '<' :: front) n := by
  induction h with
  | none hend =>
    refine .none fun hsuffix => hend ?_
    rw [trimEnd_append_cons (by decide), ← List.reverse_prefix] at hsuffix
    rw [← List.reverse_prefix]
    -- Neither of the two brackets is the opening one.
    cases hr : (trimEnd _).reverse with
    | nil => simp [hr] at hsuffix
    | cons c cs =>
      cases cs with
      | nil => simp [hr] at hsuffix
      | cons d ds => simpa [hr] using hsuffix
  | more _ hblanks ih => simpa using ih.more hblanks

/-- The pairs are counted off the end. -/
theorem Trailing.stripBrackets_eq {s front : List Char} {n : Nat} (h : Trailing s front n) :
    stripBrackets (trimEnd s).reverse = ((trimEnd front).reverse, n) := by
  induction h with
  | @none s hend =>
    rw [stripBrackets.eq_def]
    split
    · next r hr =>
      refine absurd ⟨r.reverse, ?_⟩ hend
      rw [← List.reverse_inj, hr]
      simp
    · rfl
  | @more s front blanks n _ hblanks ih =>
    have hpair : (trimEnd (s ++ '[' :: ']' :: blanks)).reverse = ']' :: '[' :: s.reverse := by
      rw [List.append_cons, trimEnd_append_blanks (by decide) _ hblanks]
      simp
    rw [hpair, stripBrackets, ← reverse_trimEnd, ih]

/-! ## The raw type -/

/-- The raw type of a text with arguments is the name in front of them, in as many arrays as there
    are pairs of brackets at the end. -/
theorem rawType?_eq {n rest : String} {name : QualifiedName} {front : List Char} {k : Nat}
    (hn : QualifiedName.parse? n = some name) (h : Trailing rest.toList front k) :
    rawType? (n ++ "<" ++ rest) = some (arrays k (raw name)) := by
  have htrim : trim (n ++ "<" ++ rest).toList =
      trimEnd (trimStart n.toList ++ '<' :: rest.toList) := by
    rw [trim, ← trimStart_append_cons (by decide)]
    simp
  have hname : (trimStart n.toList ++ '<' :: trimEnd front).takeWhile (· ≠ '<') =
      trimStart n.toList := by
    rw [List.takeWhile_append_of_pos fun c hc => decide_eq_true
      (ne_of_mem_of_not_mem hc (QualifiedName.angle_not_mem_of_parse? hn))]
    simp
  have hangle : isBlank '<' = false := by decide
  rw [rawType?, htrim, (h.append_left _).stripBrackets_eq]
  simp only [List.reverse_reverse, trimEnd_append_cons hangle, hname,
    QualifiedName.parse?_trimStart, hn, Option.map_some]

theorem parseLenient_eq_ok {n rest : String} {name : QualifiedName} {front : List Char} {k : Nat}
    (hn : QualifiedName.parse? n = some name) (h : Trailing rest.toList front k)
    (hmalformed : ∀ t, parse (n ++ "<" ++ rest) ≠ .ok t) :
    parseLenient (n ++ "<" ++ rest) = .ok (arrays k (raw name)) := by
  cases hparse : parse (n ++ "<" ++ rest) with
  | ok t => exact absurd hparse (hmalformed t)
  | error e => rw [parseLenient, hparse, rawType?_eq hn h]

theorem Trailing.eq_zero_iff {s front : List Char} {n : Nat} (h : Trailing s front n) :
    n = 0 ↔ ¬['[', ']'] <:+ trimEnd s := by
  cases h with
  | none hend => exact ⟨fun _ => hend, fun _ => rfl⟩
  | @more s _ blanks n _ hblanks =>
    rw [List.append_cons, trimEnd_append_blanks (by decide) _ hblanks, List.append_assoc]
    exact ⟨nofun, fun hend => absurd (List.suffix_append _ _) hend⟩

/-- A list that is closed keeps the brackets in it to itself. -/
theorem trailing_closed (a : List Char) (k : Nat) :
    Trailing (a ++ '>' :: pairs k) (a ++ ['>']) k := by
  have hpairs : ∀ k, pairs (k + 1) = pairs k ++ ['[', ']'] := by
    intro k
    induction k with
    | zero => rfl
    | succ k ih => exact congrArg (['[', ']'] ++ ·) ih
  induction k with
  | zero =>
    refine .none ?_
    rw [pairs, trimEnd_append_cons (by decide), ← List.reverse_prefix]
    simp [trimEnd]
  | succ k ih =>
    have hmore : Trailing (a ++ '>' :: pairs k ++ ['[', ']']) (a ++ ['>']) (k + 1) :=
      ih.more (List.forall_mem_nil _)
    rw [hpairs]
    simpa using hmore

theorem toList_join_pairs (k : Nat) :
    (String.join (List.replicate k "[]")).toList = pairs k := by
  induction k with
  | zero => rfl
  | succ k ih =>
    rw [List.replicate_succ, String.join_cons, String.toList_append, ih]
    rfl

theorem arrays_raw_eq_iff {k : Nat} {name : QualifiedName} :
    arrays k (raw name) = raw name ↔ k = 0 := by
  cases k with
  | zero => exact ⟨fun _ => rfl, fun _ => rfl⟩
  | succ k =>
    refine ⟨fun h => ?_, nofun⟩
    have hname := name?_arrays_array k (raw name)
    exact absurd ((congrArg name? h).symm.trans hname) (by simp [raw, name?])

/-! ## Malformed arguments -/

/-- Malformed arguments are dropped. If they are closed, the brackets behind them make the arrays;
    otherwise it is those at the end of the text, so that the raw type itself is given just if
    there are none. -/
theorem parseLenient_of_malformed {n : String} {name : QualifiedName}
    (hn : QualifiedName.parse? n = some name) (a : String) :
    ((∀ t, parse (n ++ "<" ++ a) ≠ .ok t) →
      (parseLenient (n ++ "<" ++ a) = .ok (raw name) ↔ ¬['[', ']'] <:+ trimEnd a.toList) ∧
        ∃ front k, Trailing a.toList front k ∧
          parseLenient (n ++ "<" ++ a) = .ok (arrays k (raw name))) ∧
    ∀ k, (∀ t, parse (n ++ "<" ++ (a ++ ">" ++ String.join (List.replicate k "[]"))) ≠ .ok t) →
      parseLenient (n ++ "<" ++ (a ++ ">" ++ String.join (List.replicate k "[]"))) =
        .ok (arrays k (raw name)) := by
  constructor
  · intro hmalformed
    obtain ⟨front, k, hk⟩ := exists_trailing a.toList
    have hlenient := parseLenient_eq_ok hn hk hmalformed
    refine ⟨?_, front, k, hk, hlenient⟩
    rw [hlenient, Except.ok.injEq, arrays_raw_eq_iff, hk.eq_zero_iff]
  · intro k hmalformed
    have hclosed : (a ++ ">" ++ String.join (List.replicate k "[]")).toList =
        a.toList ++ '>' :: pairs k := by
      rw [String.toList_append, String.toList_append, toList_join_pairs, List.append_assoc]
      rfl
    exact parseLenient_eq_ok hn (hclosed ▸ trailing_closed a.toList k) hmalformed

/-- A text that is not read as a type. -/
theorem parse_ne_ok {text : String} (h : (parse text).toOption = none) (t : JavaType) :
    parse text ≠ .ok t := by
  intro hparse
  rw [hparse] at h
  exact absurd h (by simp [Except.toOption])

/-- Arguments with brackets at their end, closed behind them or not at all. -/
theorem parseLenient_of_malformed_map :
    QualifiedName.parse? " java.util.Map" = some ⟨"java.util", [], "Map"⟩ ∧
      (∀ t, parse (" java.util.Map" ++ "<" ++ "K, ?? int [] []\t") ≠ .ok t) ∧
      (parseLenient (" java.util.Map" ++ "<" ++ "K, ?? int [] []\t") =
          .ok (raw ⟨"java.util", [], "Map"⟩) ↔
        ¬['[', ']'] <:+ trimEnd "K, ?? int [] []\t".toList) ∧
      (∀ t, parse (" java.util.Map" ++ "<" ++
        ("K, ?? int [] []\t" ++ ">" ++ String.join (List.replicate 3 "[]"))) ≠ .ok t) ∧
      parseLenient (" java.util.Map" ++ "<" ++
          ("K, ?? int [] []\t" ++ ">" ++ String.join (List.replicate 3 "[]"))) =
        .ok (arrays 3 (raw ⟨"java.util", [], "Map"⟩)) := by
  have hn : QualifiedName.parse? " java.util.Map" = some ⟨"java.util", [], "Map"⟩ := by decide
  have hopen : ∀ t, parse (" java.util.Map" ++ "<" ++ "K, ?? int [] []\t") ≠ .ok t :=
    parse_ne_ok (by decide +kernel)
  have hclosed : ∀ t, parse (" java.util.Map" ++ "<" ++
      ("K, ?? int [] []\t" ++ ">" ++ String.join (List.replicate 3 "[]"))) ≠ .ok t :=
    parse_ne_ok (by decide +kernel)
  obtain ⟨hunclosed, hbehind⟩ := parseLenient_of_malformed hn "K, ?? int [] []\t"
  exact ⟨hn, hopen, (hunclosed hopen).1, hclosed, hbehind 3 hclosed⟩

/-- A list that is never closed can make an array of the type that it belongs to. -/
theorem exists_parseLenient_ne_raw :
    ∃ (n a : String) (name : QualifiedName), QualifiedName.parse? n = some name ∧
      '>' ∉ a.toList ∧ (∀ t, parse (n ++ "<" ++ a) ≠ .ok t) ∧
      parseLenient (n ++ "<" ++ a) ≠ .ok (raw name) := by
  refine ⟨"java.util.List", "int[]", ⟨"java.util", [], "List"⟩, by decide, by decide,
    parse_ne_ok (by decide +kernel), fun h => ?_⟩
  have hread : (parseLenient ("java.util.List" ++ "<" ++ "int[]")).toOption =
      some (array (raw ⟨"java.util", [], "List"⟩)) := by
    decide +kernel
  rw [h] at hread
  exact absurd (Option.some.inj hread) (by decide)

end JavaType
end AssertionWriter
