/-
  AssertionWriter.Text.Basic

  The operations on texts that names, templates and sources are built with, over lists
  of characters: cutting a text at a separator or into lines, taking a known beginning
  off, and replacing every occurrence of one text by another.
-/

namespace AssertionWriter.Text

/-! ## Beginnings -/

/-- What follows `lead` in `s`, if `s` starts with it. -/
def after? : List Char → List Char → Option (List Char)
  | [], s => some s
  | _ :: _, [] => none
  | l :: ls, c :: cs => if l = c then after? ls cs else none

theorem after?_eq_some_iff {lead s r : List Char} : after? lead s = some r ↔ s = lead ++ r := by
  induction lead generalizing s with
  | nil => simp [after?]
  | cons l ls ih =>
    cases s with
    | nil => simp [after?]
    | cons c cs =>
      by_cases h : l = c
      · simp [after?, h, ih]
      · simp [after?, h, Ne.symm h]

/-! ## Separators -/

/-- The pieces of a text between the occurrences of `sep`; there is always one more piece than
    there are separators. -/
def splitOn (sep : Char) : List Char → List (List Char)
  | [] => [[]]
  | c :: cs =>
    if c = sep then [] :: splitOn sep cs
    else
      match splitOn sep cs with
      | [] => [[c]]
      | piece :: pieces => (c :: piece) :: pieces

theorem splitOn_ne_nil (sep : Char) (s : List Char) : splitOn sep s ≠ [] := by
  cases s with
  | nil => simp [splitOn]
  | cons c cs =>
    simp only [splitOn]
    split
    · simp
    · split <;> simp

theorem splitOn_of_not_mem {sep : Char} {s : List Char} (h : sep ∉ s) : splitOn sep s = [s] := by
  induction s with
  | nil => rfl
  | cons c cs ih =>
    simp only [List.mem_cons, not_or] at h
    simp [splitOn, Ne.symm h.1, ih h.2]

theorem splitOn_append {sep : Char} {s : List Char} (h : sep ∉ s) (t : List Char) :
    splitOn sep (s ++ sep :: t) = s :: splitOn sep t := by
  induction s with
  | nil => simp [splitOn]
  | cons c cs ih =>
    simp only [List.mem_cons, not_or] at h
    simp [splitOn, Ne.symm h.1, ih h.2]

/-- `splitOn` undoes joining, for pieces without the separator. -/
theorem splitOn_intercalate {sep : Char} {pieces : List (List Char)} (hne : pieces ≠ [])
    (h : ∀ p ∈ pieces, sep ∉ p) : splitOn sep (List.intercalate [sep] pieces) = pieces := by
  induction pieces with
  | nil => exact absurd rfl hne
  | cons p ps ih =>
    cases ps with
    | nil => simpa using splitOn_of_not_mem (h p (by simp))
    | cons q qs =>
      rw [List.intercalate_cons_cons, List.append_assoc, List.singleton_append,
        splitOn_append (h p (by simp)), ih (by simp) fun r hr => h r (List.mem_cons_of_mem _ hr)]

/-- Joining the pieces gives the text back. -/
theorem intercalate_splitOn (sep : Char) (s : List Char) :
    List.intercalate [sep] (splitOn sep s) = s := by
  induction s with
  | nil => simp [splitOn]
  | cons c cs ih =>
    have hne := splitOn_ne_nil sep cs
    simp only [splitOn]
    split
    · next h =>
      -- A separator opens an empty piece in front of the others.
      obtain ⟨p, ps, hp⟩ := List.exists_cons_of_ne_nil hne
      rw [hp] at ih ⊢
      rw [List.intercalate_cons_cons, ih, h]
      rfl
    · split
      · next h => exact absurd h hne
      · next p ps hp =>
        -- Any other character goes to the front of the first piece.
        rw [hp] at ih
        cases ps with
        | nil => simpa using ih
        | cons q qs =>
          rw [List.intercalate_cons_cons] at ih ⊢
          simpa using ih

/-! ## Lines -/

/-- The lines of a text, each with the line feed that ends it; the last may lack one. -/
def linesWithEnds : List Char → List (List Char)
  | [] => []
  | c :: cs =>
    if c = '\n' then [c] :: linesWithEnds cs
    else
      match linesWithEnds cs with
      | [] => [[c]]
      | line :: lines => (c :: line) :: lines

theorem flatten_linesWithEnds (s : List Char) : (linesWithEnds s).flatten = s := by
  induction s with
  | nil => rfl
  | cons c cs ih =>
    simp only [linesWithEnds]
    split
    · simp [ih]
    · split
      · next h => simp [h] at ih; simp [ih]
      · next line lines h => rw [h] at ih; simpa using ih

/-! ## Replacing -/

/-- Replaces every occurrence of `target` after the first `skip` characters, which belong to an
    occurrence already replaced and are dropped. -/
def replaceFrom (target value : List Char) : Nat → List Char → List Char
  | _, [] => []
  | skip + 1, _ :: cs => replaceFrom target value skip cs
  | 0, c :: cs =>
    if target.isPrefixOf (c :: cs) then value ++ replaceFrom target value (target.length - 1) cs
    else c :: replaceFrom target value 0 cs

/-- Replaces the occurrences of a non-empty `target` by `value`, from left to right; what has
    been put in is not searched again. -/
def replaceAll (target value s : List Char) : List Char := replaceFrom target value 0 s

theorem replaceFrom_append_skip (target value s t : List Char) :
    replaceFrom target value s.length (s ++ t) = replaceFrom target value 0 t := by
  induction s with
  | nil => rfl
  | cons c cs ih => simpa [replaceFrom] using ih

/-- An occurrence at the front is replaced. -/
theorem replaceAll_append {target : List Char} (hne : target ≠ []) (value t : List Char) :
    replaceAll target value (target ++ t) = value ++ replaceAll target value t := by
  cases target with
  | nil => exact absurd rfl hne
  | cons c cs =>
    -- The replacement fires at `c`, and then skips exactly `cs`.
    have hpre : (c :: cs).isPrefixOf (c :: (cs ++ t)) = true := by
      rw [List.isPrefixOf_iff_prefix]
      exact ⟨t, rfl⟩
    simp only [replaceAll, List.cons_append, replaceFrom, hpre, if_true, List.length_cons,
      Nat.add_sub_cancel, replaceFrom_append_skip]

/-- A character that `target` does not start with at its place is kept. -/
theorem replaceAll_cons {target : List Char} {c : Char} {s : List Char}
    (h : target.isPrefixOf (c :: s) = false) (value : List Char) :
    replaceAll target value (c :: s) = c :: replaceAll target value s := by
  simp [replaceAll, replaceFrom, h]

end AssertionWriter.Text
