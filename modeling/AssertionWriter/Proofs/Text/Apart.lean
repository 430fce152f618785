/-
  AssertionWriter.Proofs.Text.Apart

  Texts in which one character never stands right behind another: no opening brace behind
  a dollar sign, so that there is no token, or no letter `p` behind a line feed, so that no
  line starts with it. Whether a text is of this kind can be told piece by piece. Also what
  is known of lines, and of the replacing of a text that does not occur or occurs once.
-/
import AssertionWriter.Text.Basic

namespace AssertionWriter.Text

/-! ## Characters kept apart -/

/-- Whether `bad` never stands right behind `mark` in a text; `behind` tells whether `mark` stands
    in front of the text. -/
def isApart (mark bad : Char) : Bool → List Char → Bool
  | _, [] => true
  | behind, c :: cs => !(behind && c = bad) && isApart mark bad (c = mark) cs

/-- Whether `mark` stands right in front of what follows a text. -/
def isBehind (mark : Char) : Bool → List Char → Bool
  | behind, [] => behind
  | _, c :: cs => isBehind mark (c = mark) cs

variable {mark bad : Char}

theorem isBehind_append (behind : Bool) (s t : List Char) :
    isBehind mark behind (s ++ t) = isBehind mark (isBehind mark behind s) t := by
  induction s generalizing behind with
  | nil => rfl
  | cons c cs ih => rw [List.cons_append, isBehind, isBehind, ih]

theorem isApart_append (behind : Bool) (s t : List Char) :
    isApart mark bad behind (s ++ t) =
      (isApart mark bad behind s && isApart mark bad (isBehind mark behind s) t) := by
  induction s generalizing behind with
  | nil => simp [isApart, isBehind]
  | cons c cs ih => rw [List.cons_append, isApart, isApart, isBehind, ih, Bool.and_assoc]

/-- A text that may stand behind `mark` may stand anywhere. -/
theorem isApart_of_isApart_true {s : List Char} (h : isApart mark bad true s = true)
    (behind : Bool) : isApart mark bad behind s = true := by
  cases s with
  | nil => rfl
  | cons c cs =>
    simp only [isApart, Bool.true_and, Bool.and_eq_true] at h ⊢
    refine ⟨?_, h.2⟩
    cases behind with
    | false => rfl
    | true => exact h.1

/-- A text that does not start with `bad` may stand behind `mark` if it may stand at all. -/
theorem isApart_true_of_head?_ne {s : List Char} (h : isApart mark bad false s = true)
    (hs : s.head? ≠ some bad) : isApart mark bad true s = true := by
  cases s with
  | nil => rfl
  | cons c cs =>
    have hc : c ≠ bad := fun hc => hs (by rw [hc]; rfl)
    rw [isApart, Bool.and_eq_true] at h
    simp [isApart, hc, h.2]

theorem isApart_of_not_mem {s : List Char} (h : bad ∉ s) (behind : Bool) :
    isApart mark bad behind s = true := by
  induction s generalizing behind with
  | nil => rfl
  | cons c cs ih =>
    rw [List.mem_cons, not_or] at h
    rw [isApart, ih h.2]
    simp [Ne.symm h.1]

/-- Without `mark` only the first character can stand behind one. -/
theorem isApart_false_of_not_mem {s : List Char} (h : mark ∉ s) :
    isApart mark bad false s = true := by
  induction s with
  | nil => rfl
  | cons c cs ih =>
    rw [List.mem_cons, not_or] at h
    have hc : decide (c = mark) = false := by simp [Ne.symm h.1]
    rw [isApart, hc, ih h.2]
    rfl

theorem isBehind_false_of_not_mem {s : List Char} (h : mark ∉ s) :
    isBehind mark false s = false := by
  induction s with
  | nil => rfl
  | cons c cs ih =>
    rw [List.mem_cons, not_or] at h
    have hc : decide (c = mark) = false := by simp [Ne.symm h.1]
    rw [isBehind, hc, ih h.2]

/-- The two characters do not stand next to each other. -/
theorem not_infix_of_isApart {behind : Bool} {s : List Char}
    (h : isApart mark bad behind s = true) : ¬[mark, bad] <:+: s := by
  rintro ⟨front, back, rfl⟩
  rw [List.append_assoc, isApart_append, Bool.and_eq_true] at h
  simp [isApart] at h

/-! ## Lines -/

/-- A line ends at its line feed. -/
theorem linesWithEnds_line {line : List Char} (h : '\n' ∉ line) (s : List Char) :
    linesWithEnds (line ++ '\n' :: s) = (line ++ ['\n']) :: linesWithEnds s := by
  induction line with
  | nil => simp [linesWithEnds]
  | cons c cs ih =>
    rw [List.mem_cons, not_or] at h
    rw [List.cons_append, linesWithEnds, if_neg (Ne.symm h.1), ih h.2]
    rfl

/-- Behind a line feed the lines of a text start anew. -/
theorem linesWithEnds_append {s : List Char} (h : isBehind '\n' true s = true) (t : List Char) :
    linesWithEnds (s ++ t) = linesWithEnds s ++ linesWithEnds t := by
  -- The line feed at the end is all that matters, so a text that starts in a line may be empty.
  have hgeneral : ∀ (behind : Bool) (s : List Char), isBehind '\n' behind s = true →
      (s ≠ [] ∨ behind = true) → linesWithEnds (s ++ t) = linesWithEnds s ++ linesWithEnds t := by
    intro behind s
    induction s generalizing behind with
    | nil => intro _ _; rfl
    | cons c cs ih =>
      intro h _
      rw [isBehind] at h
      rw [List.cons_append, linesWithEnds, linesWithEnds]
      by_cases hc : c = '\n'
      · rw [if_pos hc, if_pos hc, ih _ h (.inr (by simpa using hc))]
        rfl
      · have hne : cs ≠ [] := by
          rintro rfl
          simp [isBehind, hc] at h
        rw [if_neg hc, if_neg hc, ih _ h (.inl hne)]
        -- The first line of the rest takes the character.
        cases hlines : linesWithEnds cs with
        | nil =>
          have hflat := flatten_linesWithEnds cs
          rw [hlines] at hflat
          exact absurd hflat.symm hne
        | cons line lines => rfl
  exact hgeneral true s h (.inr rfl)

/-- A text without line feeds in front of others goes into the first line. -/
theorem exists_linesWithEnds_append {lead : List Char} (h : '\n' ∉ lead) (hne : lead ≠ [])
    (s : List Char) : ∃ more lines, s = more ++ lines.flatten ∧
      linesWithEnds (lead ++ s) = (lead ++ more) :: lines := by
  have hfirst : ∃ more lines, linesWithEnds (lead ++ s) = (lead ++ more) :: lines := by
    induction lead with
    | nil => exact absurd rfl hne
    | cons c cs ih =>
      rw [List.mem_cons, not_or] at h
      rw [List.cons_append, linesWithEnds, if_neg (Ne.symm h.1)]
      -- Behind the last character of the lead the first line of the rest goes on, if there is one.
      cases cs with
      | nil =>
        rw [List.nil_append]
        cases linesWithEnds s with
        | nil => exact ⟨[], [], rfl⟩
        | cons line lines => exact ⟨line, lines, rfl⟩
      | cons d ds =>
        obtain ⟨more, lines, hlines⟩ := ih h.2 (by simp)
        rw [hlines]
        exact ⟨more, lines, rfl⟩
  obtain ⟨more, lines, hlines⟩ := hfirst
  refine ⟨more, lines, ?_, hlines⟩
  have hflat := flatten_linesWithEnds (lead ++ s)
  rw [hlines, List.flatten_cons, List.append_assoc, List.append_cancel_left_eq] at hflat
  exact hflat.symm

/-- The lines behind the first start behind a line feed, and the first does if the text does. -/
theorem head?_ne_of_isApart {behind : Bool} {s : List Char}
    (hs : isApart '\n' bad behind s = true) :
    (behind = true → ∀ line ∈ (linesWithEnds s).head?, line.head? ≠ some bad) ∧
      ∀ line ∈ (linesWithEnds s).tail, line.head? ≠ some bad := by
  induction s generalizing behind with
  | nil => simp [linesWithEnds]
  | cons c cs ih =>
    rw [isApart, Bool.and_eq_true] at hs
    have hfirst : behind = true → c ≠ bad := by
      rintro rfl rfl
      simp at hs
    obtain ⟨ihhead, ihtail⟩ := ih hs.2
    rw [linesWithEnds]
    by_cases hc : c = '\n'
    · -- All lines of the rest start behind this line feed.
      rw [if_pos hc]
      have hhead := ihhead (by simpa using hc)
      refine ⟨fun hb line hline => ?_, fun line hline => ?_⟩
      · obtain rfl := Option.some.inj hline
        simpa using hfirst hb
      · cases hlines : linesWithEnds cs with
        | nil => exact absurd hline (by simp [hlines])
        | cons first rest =>
          rw [hlines] at hhead ihtail
          rw [hlines, List.tail_cons] at hline
          rcases List.mem_cons.1 hline with rfl | hline
          · exact hhead _ rfl
          · exact ihtail line hline
    · rw [if_neg hc]
      cases hlines : linesWithEnds cs with
      | nil =>
        refine ⟨fun hb line hline => ?_, by simp⟩
        obtain rfl := Option.some.inj hline
        simpa using hfirst hb
      | cons first rest =>
        rw [hlines] at ihtail
        refine ⟨fun hb line hline => ?_, ihtail⟩
        obtain rfl := Option.some.inj hline
        simpa using hfirst hb

/-- No line starts with a character that never stands behind a line feed. -/
theorem head?_ne_of_mem_linesWithEnds {s line : List Char}
    (hs : isApart '\n' bad true s = true) (h : line ∈ linesWithEnds s) :
    line.head? ≠ some bad := by
  obtain ⟨hhead, htail⟩ := head?_ne_of_isApart hs
  cases hlines : linesWithEnds s with
  | nil => exact absurd h (by simp [hlines])
  | cons first rest =>
    rw [hlines] at h hhead htail
    rcases List.mem_cons.1 h with rfl | h
    · exact hhead rfl _ rfl
    · exact htail line h

/-! ## Replacing -/

/-- Nothing is replaced when a character of the target is missing. -/
theorem replaceAll_eq_self {target s : List Char} {x : Char} (ht : x ∈ target) (hs : x ∉ s)
    (value : List Char) : replaceAll target value s = s := by
  induction s with
  | nil => rfl
  | cons c cs ih =>
    have hpre : target.isPrefixOf (c :: cs) = false := by
      rw [Bool.eq_false_iff]
      intro hp
      exact hs ((List.isPrefixOf_iff_prefix.1 hp).subset ht)
    rw [replaceAll_cons hpre, ih fun h => hs (List.mem_cons_of_mem _ h)]

/-- A target with a character that stands nowhere in front is not found before its place. -/
theorem replaceAll_append_target {lead trail s : List Char} {x : Char} (hlead : x ∉ lead)
    (hs : x ∉ s) (value t : List Char) :
    replaceAll (lead ++ x :: trail) value (s ++ (lead ++ x :: trail) ++ t) =
      s ++ value ++ replaceAll (lead ++ x :: trail) value t := by
  induction s with
  | nil =>
    rw [List.nil_append, replaceAll_append (by simp), List.nil_append]
  | cons c cs ih =>
    have hpre : (lead ++ x :: trail).isPrefixOf (c :: (cs ++ (lead ++ x :: trail) ++ t)) =
        false := by
      rw [Bool.eq_false_iff]
      intro hp
      obtain ⟨r, hr⟩ := List.isPrefixOf_iff_prefix.1 hp
      -- The first `x` of both sides stands behind different numbers of characters.
      have htake := congrArg (List.takeWhile (· ≠ x)) hr
      have hfront : ∀ {u v : List Char}, x ∉ u → (u ++ x :: v).takeWhile (· ≠ x) = u := by
        intro u v hu
        rw [List.takeWhile_append_of_pos fun a ha => by
          simpa using fun h : a = x => hu (h ▸ ha)]
        simp
      have hboth : x ∉ c :: (cs ++ lead) := by
        rw [← List.cons_append, List.mem_append, not_or]
        exact ⟨hs, hlead⟩
      have hshape : c :: (cs ++ (lead ++ x :: trail) ++ t) =
          (c :: (cs ++ lead)) ++ x :: (trail ++ t) := by simp
      rw [hshape, List.append_assoc, List.cons_append, hfront hlead, hfront hboth] at htake
      have hlength := congrArg List.length htake
      simp only [List.length_cons, List.length_append] at hlength
      omega
    rw [List.cons_append, List.cons_append, replaceAll_cons hpre,
      ih fun h => hs (List.mem_cons_of_mem _ h)]
    rfl

end AssertionWriter.Text
