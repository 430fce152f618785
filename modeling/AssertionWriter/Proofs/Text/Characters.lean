/-
  AssertionWriter.Proofs.Text.Characters

  How the classes of characters lie to each other: no white space may stand in a name,
  the ASCII letters and digits may, and no change of case makes a brace or a line feed.
-/
import AssertionWriter.Entries
import AssertionWriter.QualifiedName.Parse
import AssertionWriter.Text.CaseMap

namespace AssertionWriter.Text

/-! ## Ranges -/

/-- A code point in a list of ranges lies in one of them. -/
theorem exists_range_of_inRanges {rs : List (Nat × Nat)} {n : Nat} (h : inRanges rs n = true) :
    ∃ r ∈ rs, r.1 ≤ n ∧ n ≤ r.2 := by
  induction rs with
  | nil => simp [inRanges] at h
  | cons r rs ih =>
    obtain ⟨first, last⟩ := r
    rw [inRanges] at h
    split at h
    · exact absurd h (by simp)
    · next hfirst =>
      rcases Bool.or_eq_true _ _ ▸ h with hlast | hrest
      · exact ⟨(first, last), List.mem_cons_self .., by omega, by simpa using hlast⟩
      · obtain ⟨r, hr, hn⟩ := ih hrest
        exact ⟨r, List.mem_cons_of_mem _ hr, hn⟩

/-- Whether no range of the one list meets a range of the other. -/
def areDisjoint (rs ss : List (Nat × Nat)) : Bool :=
  rs.all fun r => ss.all fun s => r.2 < s.1 || s.2 < r.1

theorem inRanges_eq_false_of_areDisjoint {rs ss : List (Nat × Nat)} {n : Nat}
    (hd : areDisjoint rs ss = true) (h : inRanges rs n = true) : inRanges ss n = false := by
  rw [Bool.eq_false_iff]
  intro hs
  obtain ⟨r, hr, hrn⟩ := exists_range_of_inRanges h
  obtain ⟨s, hs, hsn⟩ := exists_range_of_inRanges hs
  have hrs := List.all_eq_true.1 (List.all_eq_true.1 hd r hr) s hs
  simp only [Bool.or_eq_true, decide_eq_true_eq] at hrs
  omega

/-! ## White space -/

theorem isAlphanumeric_eq_false_of_isBlank {c : Char} (h : isBlank c = true) :
    isAlphanumeric c = false :=
  inRanges_eq_false_of_areDisjoint (by decide +kernel) h

/-- No white space may stand in a name. -/
theorem isBlank_eq_false_of_isNameChar {c : Char} (h : QualifiedName.isNameChar c = true) :
    isBlank c = false := by
  rw [Bool.eq_false_iff]
  intro hb
  have ha := isAlphanumeric_eq_false_of_isBlank hb
  simp only [QualifiedName.isNameChar, ha, Bool.false_or, Bool.or_eq_true,
    decide_eq_true_eq] at h
  rcases h with rfl | rfl
  · exact absurd hb (by decide)
  · exact absurd hb (by decide)

theorem trimStart_of_not_isBlank {s : List Char} (h : s.head?.all (!isBlank ·) = true) :
    trimStart s = s := by
  cases s with
  | nil => rfl
  | cons c cs =>
    have hc : isBlank c = false := by simpa using h
    rw [trimStart, List.dropWhile_cons_of_neg (by simp [hc])]

theorem trimStart_cons {c : Char} (h : isBlank c = false) (s : List Char) :
    trimStart (c :: s) = c :: s :=
  trimStart_of_not_isBlank (by simp [h])

/-- Nothing is cut from a text without white space. -/
theorem trim_eq_self {s : List Char} (h : ∀ c ∈ s, isBlank c = false) : trim s = s := by
  have hhead : ∀ t : List Char, (∀ c ∈ t, isBlank c = false) →
      t.head?.all (!isBlank ·) = true := by
    intro t ht
    cases t with
    | nil => rfl
    | cons c cs => simp [ht c (List.mem_cons_self ..)]
  have hrev : trimStart s.reverse = s.reverse :=
    trimStart_of_not_isBlank (hhead _ fun c hc => h c (List.mem_reverse.1 hc))
  rw [trim, trimStart_of_not_isBlank (hhead s h), trimEnd]
  exact (congrArg List.reverse hrev).trans (List.reverse_reverse s)

/-! ## ASCII -/

theorem isAlphanumeric_of_isUpper {c : Char} (h : c.isUpper = true) : isAlphanumeric c = true := by
  have hc : 65 ≤ c.toNat ∧ c.toNat ≤ 90 := by
    have hval : decide (c.val ≥ 'A'.val ∧ c.val ≤ 'Z'.val) = true := h
    simpa [UInt32.le_iff_toNat_le, ← Char.toNat_val] using hval
  have hall : ∀ n < 91, 65 ≤ n → inRanges alphanumericRanges n = true := by decide
  exact hall _ (by omega) hc.1

theorem isAlphanumeric_of_isDigit {c : Char} (h : c.isDigit = true) : isAlphanumeric c = true := by
  have hc : 48 ≤ c.toNat ∧ c.toNat ≤ 57 := Char.isDigit_iff_toNat.1 h
  have hall : ∀ n < 58, 48 ≤ n → inRanges alphanumericRanges n = true := by decide
  exact hall _ (by omega) hc.1

/-! ## Change of case -/

/-- Whether no run of a table maps a code point to `n`. -/
def missesRuns (runs : List CaseRun) (n : Nat) : Bool :=
  runs.all fun r => n < r.target || r.target + (r.run.last - r.run.first) < n

theorem ne_of_lookupRun {runs : List CaseRun} {n m t : Nat} (hm : missesRuns runs t = true)
    (h : lookupRun runs n = some m) : m ≠ t := by
  induction runs with
  | nil => simp [lookupRun] at h
  | cons r rs ih =>
    rw [missesRuns, List.all_cons, Bool.and_eq_true] at hm
    rw [lookupRun] at h
    split at h
    · exact absurd h (by simp)
    · split at h
      · next hfirst hin =>
        -- The code point lies in the run, so its mapping is no farther from the first one's.
        have hm := hm.1
        simp only [CodeRun.contains, Bool.and_eq_true, decide_eq_true_eq] at hin
        simp only [Bool.or_eq_true, decide_eq_true_eq] at hm
        have hmt : r.target + (n - r.run.first) = m := Option.some.inj h
        omega
      · exact ih hm.2 h

/-- Whether a case mapping leaves the code point `t`, other than 0, to itself: no table maps
    anything to it. -/
def missesTables (runs : List CaseRun) (sequences : List (Nat × List Nat)) (t : Nat) : Bool :=
  missesRuns runs t && sequences.all fun s => !s.2.contains t

/-- A character of code point `t` comes out of a case mapping only if it goes in. -/
theorem eq_of_mem_mapCase {runs : List CaseRun} {sequences : List (Nat × List Nat)} {x c : Char}
    (hx : x.toNat ≠ 0) (hm : missesTables runs sequences x.toNat = true)
    (h : x ∈ mapCase runs sequences c) : x = c := by
  rw [missesTables, Bool.and_eq_true] at hm
  -- What is no code point becomes the character 0, which `x` is not.
  have hof : ∀ n, x = Char.ofNat n → n = x.toNat := by
    rintro n rfl
    by_cases hn : n.isValidChar
    · rw [Char.ofNat, dif_pos hn]
      rfl
    · exact absurd (by simp [Char.ofNat, hn, Char.toNat]) hx
  rw [mapCase] at h
  split at h
  · next n hn =>
    exact absurd (hof n (List.mem_singleton.1 h)) (ne_of_lookupRun hm.1 hn)
  · split at h
    · next ns hns =>
      obtain ⟨n, hn, hnx⟩ := List.mem_map.1 h
      have hmiss := List.all_eq_true.1 hm.2 (c.toNat, ns) (mem_of_lookup hns)
      rw [hof n hnx.symm] at hn
      simp [hn] at hmiss
    · exact List.mem_singleton.1 h

end AssertionWriter.Text
