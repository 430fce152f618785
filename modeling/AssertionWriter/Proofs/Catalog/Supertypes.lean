/-
  AssertionWriter.Proofs.Catalog.Supertypes

  What the walk over a hierarchy finds: every type above the start, each once, and nearest
  first. The hierarchy may be any graph, with cycles, with types that are reached in several
  ways, and with types that the catalog lacks, from which no way goes on.
-/
import Mathlib.Data.List.Basic
import Mathlib.Data.Nat.Find
import Mathlib.Logic.Relation
import AssertionWriter.Catalog.Hierarchy

namespace AssertionWriter.Catalog

/-! ## Ways through the hierarchy -/

/-- The catalog declares that the type `n` extends or implements the type `m`. -/
def Extends (c : Catalog) (n m : QualifiedName) : Prop :=
  ∃ t ∈ c.directSupertypes n, t.name? = some m

/-- A way of `k` steps leads from `n` up to a type. -/
inductive Climbs (c : Catalog) (n : QualifiedName) : Nat → QualifiedName → Prop where
  | start : Climbs c n 0 n
  | step {k : Nat} {m m' : QualifiedName} (way : Climbs c n k m) (last : c.Extends m m') :
      Climbs c n (k + 1) m'

/-- The shortest way from `n` up to `m` has `k` steps. -/
structure IsDistance (c : Catalog) (n m : QualifiedName) (k : Nat) : Prop where
  climbs : c.Climbs n k m
  least : ∀ j, c.Climbs n j m → k ≤ j

/-- The type `m` is no farther from `n` than the type `m'`. -/
def NotFarther (c : Catalog) (n m m' : QualifiedName) : Prop :=
  ∃ j k, c.IsDistance n m j ∧ c.IsDistance n m' k ∧ j ≤ k

/-- No way through the hierarchy leads back to where it starts. -/
def IsAcyclic (c : Catalog) : Prop := ∀ n, ¬Relation.TransGen c.Extends n n

/-- The usages name each type above `n` once, and no other; nearer types come first, and every
    usage is one that the declaration of `n` or of a type in front of it has. -/
structure IsBreadthFirst (c : Catalog) (n : QualifiedName) (usages : List JavaType) : Prop where
  named : ∀ t ∈ usages, ∃ m, t.name? = some m
  distinct : (usages.filterMap JavaType.name?).Nodup
  reachable : ∀ m, m ∈ usages.filterMap JavaType.name? ↔ m ≠ n ∧ Relation.TransGen c.Extends n m
  nearestFirst : (usages.filterMap JavaType.name?).Pairwise (c.NotFarther n)
  declared : ∀ before t behind, usages = before ++ t :: behind →
    ∃ o, (o = n ∨ o ∈ before.filterMap JavaType.name?) ∧ t ∈ c.directSupertypes o

variable {c : Catalog} {n m m' : QualifiedName} {j k : Nat}

theorem Climbs.trans {l : QualifiedName} (h : c.Climbs n j m) (h' : c.Climbs m k l) :
    c.Climbs n (j + k) l := by
  induction h' with
  | start => exact h
  | step _ last ih => exact ih.step last

/-- A way of any length is a chain of steps. -/
theorem exists_climbs_iff : (∃ k, c.Climbs n k m) ↔ Relation.ReflTransGen c.Extends n m := by
  constructor
  · rintro ⟨k, h⟩
    induction h with
    | start => exact .refl
    | step _ last ih => exact ih.tail last
  · intro h
    induction h with
    | refl => exact ⟨0, .start⟩
    | tail _ last ih =>
      obtain ⟨k, h⟩ := ih
      exact ⟨k + 1, h.step last⟩

/-- A step leads from a declared type to one that its declaration names. -/
theorem exists_decl_of_extends (h : c.Extends n m) :
    ∃ d ∈ c.decls, d.name = n ∧ ∃ t ∈ d.directSupertypes, t.name? = some m := by
  obtain ⟨t, ht, hname⟩ := h
  rw [directSupertypes] at ht
  cases hd : c.find? n with
  | none => simp [hd] at ht
  | some d =>
    rw [hd] at ht
    exact ⟨d, mem_of_find? hd, name_of_find? hd, t, ht, hname⟩

/-- Where every declaration names types of higher rank there are no cycles. -/
theorem isAcyclic_of_rank (rank : QualifiedName → Nat)
    (h : ∀ d ∈ c.decls, ∀ t ∈ d.directSupertypes, ∀ m ∈ t.name?, rank d.name < rank m) :
    c.IsAcyclic := by
  have hstep : ∀ n m, c.Extends n m → rank n < rank m := by
    intro n m hnm
    obtain ⟨d, hd, rfl, t, ht, hname⟩ := exists_decl_of_extends hnm
    exact h d hd t ht m hname
  have hlt : ∀ n m, Relation.TransGen c.Extends n m → rank n < rank m := by
    intro n m hnm
    induction hnm with
    | single last => exact hstep _ _ last
    | tail _ last ih => exact Nat.lt_trans ih (hstep _ _ last)
  exact fun n hn => Nat.lt_irrefl _ (hlt n n hn)

/-- Where a way leads there is a shortest one. -/
theorem Climbs.exists_isDistance (h : c.Climbs n k m) : ∃ j ≤ k, c.IsDistance n m j := by
  classical
  have hex : ∃ j, c.Climbs n j m := ⟨k, h⟩
  exact ⟨Nat.find hex, Nat.find_min' hex h, Nat.find_spec hex, fun _ hj => Nat.find_min' hex hj⟩

/-! ## New names among direct supertypes -/

variable {seen queue : List QualifiedName} {types : List JavaType}

theorem mem_fresh {p : QualifiedName × JavaType} (h : p ∈ fresh seen types) :
    p.2 ∈ types ∧ p.2.name? = some p.1 ∧ p.1 ∉ seen := by
  fun_induction fresh seen types with
  | case1 => exact absurd h List.not_mem_nil
  | case2 seen t ts hnone ih =>
    obtain ⟨hmem, hname⟩ := ih h
    exact ⟨List.mem_cons_of_mem _ hmem, hname⟩
  | case3 seen t ts n hn hseen ih =>
    obtain ⟨hmem, hname⟩ := ih h
    exact ⟨List.mem_cons_of_mem _ hmem, hname⟩
  | case4 seen t ts n hn hseen ih =>
    rcases List.mem_cons.1 h with rfl | h
    · exact ⟨List.mem_cons_self .., hn, hseen⟩
    · obtain ⟨hmem, hname, hnot⟩ := ih h
      exact ⟨List.mem_cons_of_mem _ hmem, hname, fun h => hnot (List.mem_cons_of_mem _ h)⟩

theorem nodup_names_fresh : ((fresh seen types).map (·.1)).Nodup := by
  fun_induction fresh seen types with
  | case1 => exact List.nodup_nil
  | case2 seen t ts hnone ih => exact ih
  | case3 seen t ts n hn hseen ih => exact ih
  | case4 seen t ts n hn hseen ih =>
    rw [List.map_cons, List.nodup_cons]
    refine ⟨fun hmem => ?_, ih⟩
    -- A name is seen as soon as it has been found.
    obtain ⟨p, hp, rfl⟩ := List.mem_map.1 hmem
    exact (mem_fresh hp).2.2 (List.mem_cons_self ..)

theorem mem_names_fresh {t : JavaType} (ht : t ∈ types) (hm : t.name? = some m) :
    m ∈ seen ∨ m ∈ (fresh seen types).map (·.1) := by
  fun_induction fresh seen types with
  | case1 => exact absurd ht List.not_mem_nil
  | case2 seen u us hnone ih =>
    rcases List.mem_cons.1 ht with rfl | ht
    · exact absurd (hm.symm.trans hnone) (by simp)
    · exact ih ht
  | case3 seen u us n hn hseen ih =>
    rcases List.mem_cons.1 ht with rfl | ht
    · exact .inl (Option.some.inj (hn.symm.trans hm) ▸ hseen)
    · exact ih ht
  | case4 seen u us n hn hseen ih =>
    rw [List.map_cons, List.mem_cons]
    rcases List.mem_cons.1 ht with rfl | ht
    · exact .inr (.inl (Option.some.inj (hm.symm.trans hn)))
    · rcases ih ht with hmem | hmem
      · exact (List.mem_cons.1 hmem).elim (fun h => .inr (.inl h)) .inl
      · exact .inr (.inr hmem)

/-! ## What the walk lists -/

/-- The names that are found when the type `n` is passed. -/
def found (c : Catalog) (seen : List QualifiedName) (n : QualifiedName) : List QualifiedName :=
  (fresh seen (c.directSupertypes n)).map (·.1)

/-- The names of what a walk lists. -/
def walkNames (c : Catalog) (seen queue : List QualifiedName) : List QualifiedName :=
  (c.walk seen queue).map (·.1)

theorem walk_nil : c.walk seen [] = [] := by rw [walk]

theorem walk_cons : c.walk seen (n :: queue) =
    fresh seen (c.directSupertypes n) ++
      c.walk (c.found seen n ++ seen) (queue ++ c.found seen n) := by
  rw [walk]
  rfl

theorem walkNames_nil : c.walkNames seen [] = [] := by
  rw [walkNames, walk_nil, List.map_nil]

theorem walkNames_cons : c.walkNames seen (n :: queue) =
    c.found seen n ++ c.walkNames (c.found seen n ++ seen) (queue ++ c.found seen n) := by
  rw [walkNames, walk_cons, List.map_append]
  rfl

/-- What holds when the queue is empty, and of a queue if it does when the first type has been
    passed, holds of every queue. -/
theorem walk_induction (c : Catalog) {P : List QualifiedName → List QualifiedName → Prop}
    (nil : ∀ seen, P seen [])
    (cons : ∀ seen n queue, P (c.found seen n ++ seen) (queue ++ c.found seen n) →
      P seen (n :: queue))
    (seen queue : List QualifiedName) : P seen queue :=
  walk.induct c P nil cons seen queue

theorem mem_walk {p : QualifiedName × JavaType} (h : p ∈ c.walk seen queue) :
    p.2.name? = some p.1 ∧ p.1 ∉ seen := by
  induction seen, queue using walk_induction c with
  | nil seen => exact absurd h (by simp [walk_nil])
  | cons seen n queue ih =>
    rw [walk_cons] at h
    rcases List.mem_append.1 h with h | h
    · exact (mem_fresh h).2
    · obtain ⟨hname, hnot⟩ := ih h
      exact ⟨hname, fun hseen => hnot (List.mem_append_right _ hseen)⟩

theorem nodup_walkNames : (c.walkNames seen queue).Nodup := by
  induction seen, queue using walk_induction c with
  | nil seen => simp [walkNames_nil]
  | cons seen n queue ih =>
    rw [walkNames_cons, List.nodup_append]
    refine ⟨nodup_names_fresh, ih, ?_⟩
    -- What is found later was not seen before.
    rintro m hm _ hm' rfl
    obtain ⟨p, hp, rfl⟩ := List.mem_map.1 hm'
    exact (mem_walk hp).2 (List.mem_append_left _ hm)

/-- What is listed is declared for a type of the queue, or for one that is listed before. -/
theorem declared_of_walk {before behind : List (QualifiedName × JavaType)}
    {p : QualifiedName × JavaType} (h : c.walk seen queue = before ++ p :: behind) :
    ∃ o ∈ queue ++ before.map (·.1), p.2 ∈ c.directSupertypes o := by
  induction seen, queue using walk_induction c generalizing before with
  | nil seen => exact absurd h (by simp [walk_nil])
  | cons seen n queue ih =>
    rw [walk_cons] at h
    rcases List.append_eq_append_iff.1 h with ⟨inner, rfl, hrest⟩ | ⟨inner, hnew, hrest⟩
    · obtain ⟨o, ho, hp⟩ := ih hrest
      rw [List.append_assoc, found, ← List.map_append] at ho
      exact ⟨o, List.mem_cons_of_mem _ ho, hp⟩
    · cases inner with
      | nil =>
        -- It is the first of those that are found later.
        obtain ⟨o, ho, hp⟩ := @ih [] hrest.symm
        rw [List.append_nil] at hnew
        rw [List.map_nil, List.append_nil, found, hnew] at ho
        exact ⟨o, List.mem_cons_of_mem _ ho, hp⟩
      | cons q inner =>
        obtain ⟨rfl, -⟩ := List.cons.inj hrest
        have hmem : p ∈ fresh seen (c.directSupertypes n) :=
          hnew ▸ List.mem_append_right _ (List.mem_cons_self ..)
        exact ⟨n, List.mem_cons_self .., (mem_fresh hmem).1⟩

/-! ## The frontier -/

/-- Where a walk from `n` stands: it goes through the types that are `k` steps away, of which those
    in `now` are left, and `next` are the types one step farther that it has found so far. -/
structure Frontier (c : Catalog) (n : QualifiedName) (seen : List QualifiedName) (k : Nat)
    (now next : List QualifiedName) : Prop where
  near : ∀ m j, c.Climbs n j m → j ≤ k → m ∈ seen
  onLevel : ∀ m ∈ now, c.IsDistance n m k
  onNext : ∀ m ∈ next, c.IsDistance n m (k + 1)
  reached : ∀ m ∈ seen, (∃ j ≤ k, c.Climbs n j m) ∨ m ∈ next
  passed : ∀ m ∈ seen, c.IsDistance n m k → m ∈ now ∨ ∀ m', c.Extends m m' → m' ∈ seen

variable {now next : List QualifiedName}

theorem frontier_start : c.Frontier n [n] 0 [n] [] where
  near m j h hj := by
    obtain rfl := Nat.le_zero.1 hj
    cases h
    exact List.mem_singleton_self n
  onLevel m hm := by
    rw [List.mem_singleton.1 hm]
    exact ⟨.start, fun j _ => Nat.zero_le j⟩
  onNext m hm := absurd hm List.not_mem_nil
  reached m hm := by
    rw [List.mem_singleton.1 hm]
    exact .inl ⟨0, Nat.le_refl 0, .start⟩
  passed m hm _ := .inl hm

namespace Frontier

/-- When all types of the level have been passed, their supertypes have been seen. -/
theorem mem_seen_of_extends (h : c.Frontier n seen k [] next) (hm : c.Climbs n j m) (hj : j ≤ k)
    (hstep : c.Extends m m') : m' ∈ seen := by
  obtain ⟨i, hi, hdist⟩ := hm.exists_isDistance
  by_cases hik : i = k
  · subst hik
    have hseen := h.near m i hdist.climbs (Nat.le_refl i)
    exact (h.passed m hseen hdist).resolve_left List.not_mem_nil m' hstep
  · exact h.near m' (i + 1) (hdist.climbs.step hstep) (by omega)

/-- The level is done, and that of the types found on it begins. -/
theorem advance (h : c.Frontier n seen k [] next) : c.Frontier n seen (k + 1) next [] where
  near m j hm hj := by
    cases hm with
    | start => exact h.near n 0 .start (Nat.zero_le k)
    | step way last => exact h.mem_seen_of_extends way (by omega) last
  onLevel := h.onNext
  onNext m hm := absurd hm List.not_mem_nil
  reached m hm := by
    rcases h.reached m hm with ⟨j, hj, hclimbs⟩ | hnext
    · exact .inl ⟨j, by omega, hclimbs⟩
    · exact .inl ⟨k + 1, Nat.le_refl _, (h.onNext m hnext).climbs⟩
  passed m hm hdist := by
    rcases h.reached m hm with ⟨j, hj, hclimbs⟩ | hnext
    · have := hdist.least j hclimbs
      omega
    · exact .inl hnext

/-- One type of the level is passed, and its new supertypes are found. -/
theorem pass (h : c.Frontier n seen k (m :: now) next) :
    c.Frontier n (c.found seen m ++ seen) k now (next ++ c.found seen m) where
  near m' j hm' hj := List.mem_append_right _ (h.near m' j hm' hj)
  onLevel m' hm' := h.onLevel m' (List.mem_cons_of_mem _ hm')
  onNext m' hm' := by
    rcases List.mem_append.1 hm' with hm' | hm'
    · exact h.onNext m' hm'
    · obtain ⟨p, hp, rfl⟩ := List.mem_map.1 hm'
      obtain ⟨hmem, hname, hnot⟩ := mem_fresh hp
      refine ⟨(h.onLevel m (List.mem_cons_self ..)).climbs.step ⟨p.2, hmem, hname⟩, fun j hj => ?_⟩
      -- A shorter way would lead to a type that has been seen.
      rw [← Nat.not_lt]
      exact fun hlt => hnot (h.near p.1 j hj (by omega))
  reached m' hm' := by
    rcases List.mem_append.1 hm' with hm' | hm'
    · exact .inr (List.mem_append_right _ hm')
    · exact (h.reached m' hm').imp_right (List.mem_append_left _)
  passed m' hm' hdist := by
    have hseen := h.near m' k hdist.climbs (Nat.le_refl k)
    rcases h.passed m' hseen hdist with hnow | hall
    · rcases List.mem_cons.1 hnow with rfl | hnow
      · refine .inr fun l hl => ?_
        obtain ⟨t, ht, hname⟩ := hl
        exact List.mem_append.2 (mem_names_fresh ht hname).symm
      · exact .inl hnow
    · exact .inr fun l hl => List.mem_append_right _ (hall l hl)

/-- If the queue is not empty, its first type is one of the present level or of the next. -/
theorem exists_cons {queue : List QualifiedName} (h : c.Frontier n seen k now next)
    (hqueue : m :: queue = now ++ next) :
    ∃ k' now' next', k ≤ k' ∧ c.Frontier n seen k' (m :: now') next' ∧ queue = now' ++ next' := by
  cases now with
  | nil =>
    obtain rfl : m :: queue = next := hqueue
    exact ⟨k + 1, queue, [], Nat.le_succ k, h.advance, (List.append_nil queue).symm⟩
  | cons m' now =>
    obtain ⟨rfl, rfl⟩ := List.cons.inj hqueue
    exact ⟨k, now, next, Nat.le_refl k, h, rfl⟩

/-- If the queue is empty, everything above the start has been seen. -/
theorem mem_seen (h : c.Frontier n seen k [] []) (hm : c.Climbs n j m) : m ∈ seen := by
  induction hm with
  | start => exact h.near n 0 .start (Nat.zero_le k)
  | step way last ih =>
    rcases h.reached _ ih with ⟨i, hi, hclimbs⟩ | hnext
    · exact h.mem_seen_of_extends hclimbs hi last
    · exact absurd hnext List.not_mem_nil

/-- From any frontier the walk lists types that are farther away, nearer ones first, and it leaves
    out none that has not been seen. -/
theorem walkNames_spec (h : c.Frontier n seen k now next) :
    (∀ m ∈ c.walkNames seen (now ++ next), ∃ j, k < j ∧ c.IsDistance n m j) ∧
      (c.walkNames seen (now ++ next)).Pairwise (c.NotFarther n) ∧
      ∀ m j, c.Climbs n j m → m ∈ seen ∨ m ∈ c.walkNames seen (now ++ next) := by
  generalize hqueue : now ++ next = queue
  -- The levels change with the queue, so the induction is over all of them.
  induction seen, queue using walk_induction c generalizing k now next with
  | nil seen =>
    obtain ⟨rfl, rfl⟩ := List.append_eq_nil_iff.1 hqueue
    rw [walkNames_nil]
    exact ⟨fun m hm => absurd hm List.not_mem_nil, List.Pairwise.nil,
      fun m j hm => .inl (h.mem_seen hm)⟩
  | cons seen m queue ih =>
    obtain ⟨k', now', next', hk, h, rfl⟩ := h.exists_cons hqueue.symm
    obtain ⟨hfar, hsorted, hall⟩ := ih h.pass (List.append_assoc ..).symm
    have hnew : ∀ l ∈ c.found seen m, c.IsDistance n l (k' + 1) := fun l hl =>
      h.pass.onNext l (List.mem_append_right _ hl)
    rw [walkNames_cons]
    refine ⟨fun l hl => ?_, List.pairwise_append.2 ⟨?_, hsorted, fun a ha b hb => ?_⟩,
      fun l j hl => ?_⟩
    · rcases List.mem_append.1 hl with hl | hl
      · exact ⟨k' + 1, by omega, hnew l hl⟩
      · obtain ⟨j, hj, hdist⟩ := hfar l hl
        exact ⟨j, by omega, hdist⟩
    · -- The new names are all on one level.
      exact List.pairwise_of_forall_mem_list fun a ha b hb =>
        ⟨_, _, hnew a ha, hnew b hb, Nat.le_refl _⟩
    · obtain ⟨j, hj, hdist⟩ := hfar b hb
      exact ⟨_, _, hnew a ha, hdist, by omega⟩
    · rcases hall l j hl with hseen | hmem
      · exact (List.mem_append.1 hseen).elim (fun h => .inr (List.mem_append_left _ h)) .inl
      · exact .inr (List.mem_append_right _ hmem)

end Frontier

/-! ## Supertypes -/

/-- Every listed usage bears the name it is listed under. -/
theorem supertypeNames_eq : c.supertypeNames n = c.walkNames [n] [n] := by
  rw [supertypeNames, supertypes, List.filterMap_map, walkNames]
  exact List.filterMap_eq_map_iff_forall_eq_some.2 fun p hp => (mem_walk hp).1

theorem nodup_supertypeNames : (c.supertypeNames n).Nodup := by
  rw [supertypeNames_eq]
  exact nodup_walkNames

theorem nearestFirst_supertypeNames : (c.supertypeNames n).Pairwise (c.NotFarther n) := by
  rw [supertypeNames_eq]
  exact frontier_start.walkNames_spec.2.1

/-- The names listed are those of all types above, whatever the way. -/
theorem mem_supertypeNames_iff :
    m ∈ c.supertypeNames n ↔ m ≠ n ∧ Relation.ReflTransGen c.Extends n m := by
  obtain ⟨hfar, -, hall⟩ := (frontier_start (c := c) (n := n)).walkNames_spec
  rw [supertypeNames_eq, ← exists_climbs_iff]
  constructor
  · intro hm
    obtain ⟨p, hp, rfl⟩ := List.mem_map.1 hm
    obtain ⟨j, -, hdist⟩ := hfar _ hm
    exact ⟨fun h => (mem_walk hp).2 (List.mem_singleton.2 h), j, hdist.climbs⟩
  · rintro ⟨hne, j, hclimbs⟩
    exact (hall m j hclimbs).resolve_left fun h => hne (List.mem_singleton.1 h)

theorem isSubtypeOf_iff :
    c.isSubtypeOf n m = true ↔ Relation.ReflTransGen c.Extends n m := by
  rw [isSubtypeOf, Bool.or_eq_true, decide_eq_true_eq, List.contains_iff_mem,
    mem_supertypeNames_iff]
  constructor
  · rintro (rfl | ⟨-, h⟩)
    · exact .refl
    · exact h
  · intro h
    by_cases hnm : n = m
    · exact .inl hnm
    · exact .inr ⟨fun h => hnm h.symm, h⟩

/-- The supertypes of a type are listed in breadth-first order, and a type is a subtype of another
    one exactly if steps of the hierarchy lead there, which makes a preorder. -/
theorem isBreadthFirst_supertypes (c : Catalog) :
    (∀ n, c.IsBreadthFirst n (c.supertypes n)) ∧
      (∀ n m, c.isSubtypeOf n m = true ↔ Relation.ReflTransGen c.Extends n m) ∧
      IsPreorder QualifiedName fun n m => c.isSubtypeOf n m = true := by
  refine ⟨fun n => ?_, fun n m => isSubtypeOf_iff, ?_⟩
  · refine ⟨fun t ht => ?_, nodup_supertypeNames, fun m => ?_, nearestFirst_supertypeNames, ?_⟩
    · obtain ⟨p, hp, rfl⟩ := List.mem_map.1 ht
      exact ⟨p.1, (mem_walk hp).1⟩
    · show m ∈ c.supertypeNames n ↔ _
      rw [mem_supertypeNames_iff, Relation.reflTransGen_iff_eq_or_transGen]
      exact and_congr_right fun hne => or_iff_right hne
    · intro before t behind h
      obtain ⟨front, rest, hwalk, rfl, hrest⟩ := List.map_eq_append_iff.1 h
      obtain ⟨p, back, rfl, rfl, rfl⟩ := List.map_eq_cons_iff.1 hrest
      obtain ⟨o, ho, hp⟩ := declared_of_walk hwalk
      refine ⟨o, ?_, hp⟩
      have hnames : (front.map (·.2)).filterMap JavaType.name? = front.map (·.1) := by
        rw [List.filterMap_map]
        exact List.filterMap_eq_map_iff_forall_eq_some.2 fun q hq =>
          (mem_walk (hwalk ▸ List.mem_append_left _ hq)).1
      rw [hnames]
      simpa using ho
  · simp only [isSubtypeOf_iff]
    exact { refl := fun n => .refl, trans := fun a b d hab hbd => hab.trans hbd }

end AssertionWriter.Catalog
