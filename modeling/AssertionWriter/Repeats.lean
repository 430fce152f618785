/-
  AssertionWriter.Repeats

  Dropping repetitions from a list in which items with the same key stand together.
-/

namespace AssertionWriter

/-- Keeps the first of neighbours with the same key. -/
def dropRepeats {α β : Type} [DecidableEq β] (key : α → β) : List α → List α
  | [] => []
  | [a] => [a]
  | a :: b :: rest =>
    if key a = key b then dropRepeats key (a :: rest) else a :: dropRepeats key (b :: rest)

theorem mem_of_mem_dropRepeats {α β : Type} [DecidableEq β] {key : α → β} {xs : List α} {x : α}
    (h : x ∈ dropRepeats key xs) : x ∈ xs := by
  induction xs using dropRepeats.induct key with
  | case1 => exact absurd h (by simp [dropRepeats])
  | case2 a => simpa [dropRepeats] using h
  | case3 a b rest hkey ih =>
    rw [dropRepeats, if_pos hkey] at h
    rcases List.mem_cons.1 (ih h) with rfl | hrest
    · simp
    · simp [hrest]
  | case4 a b rest hkey ih =>
    rw [dropRepeats, if_neg hkey, List.mem_cons] at h
    rcases h with rfl | h
    · simp
    · exact List.mem_cons_of_mem _ (ih h)

end AssertionWriter
