/-
  AssertionWriter.Text.CodeRange

  Sets of code points as ascending lists of ranges: `inRanges` for plain ranges,
  `inRuns` for runs with a step (a script that alternates the cases has every other
  code point in upper case). Both stop at the first range past the code point.
-/

namespace AssertionWriter.Text

/-- Whether `n` lies in a list of ranges `(first, last)`, given in ascending order. -/
def inRanges : List (Nat × Nat) → Nat → Bool
  | [], _ => false
  | (first, last) :: rest, n => if n < first then false else n ≤ last || inRanges rest n

/-- The code points `first, first + step, …, last`. -/
structure CodeRun where
  first : Nat
  last : Nat
  step : Nat

/-- Whether `n` is one of the code points of the run. -/
def CodeRun.contains (r : CodeRun) (n : Nat) : Bool :=
  r.first ≤ n && n ≤ r.last && (n - r.first) % r.step == 0

/-- Whether `n` lies in a list of runs, given in ascending order. -/
def inRuns : List CodeRun → Nat → Bool
  | [], _ => false
  | r :: rest, n => if n < r.first then false else r.contains n || inRuns rest n

end AssertionWriter.Text
