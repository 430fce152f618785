/-
  AssertionWriter.Proofs.Repeats

  Lists that are sorted by a key and then thinned out. No key is lost when neighbours with
  one key are dropped; and if only equal keys have the same place in the order, then each
  of them is left once, in strictly ascending order.
-/
import AssertionWriter.Repeats

namespace AssertionWriter

variable {α β : Type} {xs ys : List α} {x : α}

/-! ## Sorting -/

section
variable (cmp : β → β → Ordering) [Std.TransCmp cmp] (key : α → β)

theorem isLE_key_trans (a b c : α) (hab : (cmp (key a) (key b)).isLE = true)
    (hbc : (cmp (key b) (key c)).isLE = true) : (cmp (key a) (key c)).isLE = true :=
  Std.TransCmp.isLE_trans hab hbc

theorem isLE_key_total (a b : α) :
    ((cmp (key a) (key b)).isLE || (cmp (key b) (key a)).isLE) = true := by
  rw [@Std.OrientedCmp.eq_swap _ cmp _ (key b)]
  cases cmp (key a) (key b) <;> rfl

/-- What is sorted by a key is ascending, whatever the order of the keys is. -/
theorem pairwise_mergeSort_key (xs : List α) :
    (xs.mergeSort fun a b => (cmp (key a) (key b)).isLE).Pairwise
      fun a b => (cmp (key a) (key b)).isLE = true :=
  List.pairwise_mergeSort (isLE_key_trans cmp key) (isLE_key_total cmp key) xs

end

/-! ## Dropping neighbours -/

section
variable [DecidableEq β] {key : α → β}

/-- Lists without a key in common are thinned out one by one. -/
theorem dropRepeats_append (h : ∀ x ∈ xs, ∀ y ∈ ys, key x ≠ key y) :
    dropRepeats key (xs ++ ys) = dropRepeats key xs ++ dropRepeats key ys := by
  induction xs using dropRepeats.induct key with
  | case1 => simp [dropRepeats]
  | case2 a =>
    cases ys with
    | nil => simp [dropRepeats]
    | cons y ys =>
      have hne : key a ≠ key y := h a (by simp) y (by simp)
      simp [dropRepeats, hne]
  | case3 a b rest hab ih =>
    have ih := ih fun x hx => h x ((List.sublist_cons_self b rest).cons_cons a |>.subset hx)
    rw [List.cons_append, List.cons_append, dropRepeats, if_pos hab, dropRepeats, if_pos hab, ← ih,
      List.cons_append]
  | case4 a b rest hab ih =>
    have ih := ih fun x hx => h x (List.mem_cons_of_mem _ hx)
    rw [List.cons_append, List.cons_append, dropRepeats, if_neg hab, dropRepeats, if_neg hab,
      ← List.cons_append, ih, List.cons_append]

/-- Different items stay as they are. -/
theorem dropRepeats_eq_self (h : (xs.map key).Nodup) : dropRepeats key xs = xs := by
  induction xs using dropRepeats.induct key with
  | case1 => rw [dropRepeats]
  | case2 a => rw [dropRepeats]
  | case3 a b rest hab ih =>
    rw [List.map_cons, List.map_cons, hab, List.nodup_cons] at h
    exact absurd (List.mem_cons_self ..) h.1
  | case4 a b rest hab ih =>
    rw [dropRepeats, if_neg hab, ih (List.nodup_cons.1 h).2]

/-- No key is lost. -/
theorem mem_map_dropRepeats {k : β} : k ∈ (dropRepeats key xs).map key ↔ k ∈ xs.map key := by
  induction xs using dropRepeats.induct key with
  | case1 => simp [dropRepeats]
  | case2 a => simp [dropRepeats]
  | case3 a b rest hab ih =>
    rw [dropRepeats, if_pos hab, ih]
    simp [← hab]
  | case4 a b rest hab ih =>
    rw [dropRepeats, if_neg hab, List.map_cons, List.map_cons, List.mem_cons, List.mem_cons, ih]

/-- Where the key tells items apart, only repetitions are dropped. -/
theorem mem_dropRepeats (hkey : ∀ a ∈ xs, ∀ b ∈ xs, key a = key b → a = b) :
    x ∈ dropRepeats key xs ↔ x ∈ xs := by
  refine ⟨mem_of_mem_dropRepeats, fun h => ?_⟩
  -- What is left has the key of `x`, and so it is `x`.
  have hmem : key x ∈ (dropRepeats key xs).map key :=
    mem_map_dropRepeats.2 (List.mem_map_of_mem h)
  obtain ⟨y, hy, hyx⟩ := List.mem_map.1 hmem
  obtain rfl := hkey y (mem_of_mem_dropRepeats hy) x h hyx
  exact hy

/-- What is ascending becomes strictly so, if only equal keys have the same place. -/
theorem pairwise_lt_dropRepeats {cmp : β → β → Ordering} [Std.TransCmp cmp]
    (hsorted : xs.Pairwise fun a b => (cmp (key a) (key b)).isLE = true)
    (hcmp : ∀ a ∈ xs, ∀ b ∈ xs, cmp (key a) (key b) = .eq → key a = key b) :
    (dropRepeats key xs).Pairwise fun a b => cmp (key a) (key b) = .lt := by
  induction xs using dropRepeats.induct key with
  | case1 =>
    rw [dropRepeats]
    exact List.Pairwise.nil
  | case2 a =>
    rw [dropRepeats]
    exact List.pairwise_singleton _ _
  | case3 a b rest hab ih =>
    rw [dropRepeats, if_pos hab]
    have hsublist : (a :: rest).Sublist (a :: b :: rest) := (List.sublist_cons_self b rest).cons_cons a
    refine ih (hsorted.sublist hsublist) fun c hc d hd => ?_
    exact hcmp c (hsublist.subset hc) d (hsublist.subset hd)
  | case4 a b rest hab ih =>
    rw [dropRepeats, if_neg hab]
    obtain ⟨ha, hrest⟩ := List.pairwise_cons.1 hsorted
    have hlt : cmp (key a) (key b) = .lt := by
      refine (Ordering.isLE_iff_eq_lt_or_eq_eq.1 (ha b (by simp))).resolve_right fun heq => hab ?_
      exact hcmp a (by simp) b (by simp) heq
    refine List.pairwise_cons.2 ⟨fun c hc => ?_, ih hrest fun c hc d hd => ?_⟩
    · -- What is left behind `b` is no smaller than `b`.
      rcases List.mem_cons.1 (mem_of_mem_dropRepeats hc) with rfl | hc
      · exact hlt
      · exact Std.TransCmp.lt_of_lt_of_isLE hlt ((List.pairwise_cons.1 hrest).1 c hc)
    · exact hcmp c (List.mem_cons_of_mem _ hc) d (List.mem_cons_of_mem _ hd)

end
end AssertionWriter
