/-
  AssertionWriter.Catalog.Hierarchy

  The supertypes of a type: all of them, nearest first, and the chain of its
  superclasses. Hierarchies may be cyclic and may name types that the catalog lacks. Both
  walks end because a name is entered once, and a catalog mentions finitely many.
-/
import AssertionWriter.Catalog.Basic

namespace AssertionWriter.Catalog

/-! ## Names not seen yet -/

/-- How many of `names` are not in `seen`. -/
def unseen (names seen : List QualifiedName) : Nat :=
  (names.filter (· ∉ seen)).length

theorem unseen_congr (names seen seen' : List QualifiedName)
    (h : ∀ n, n ∈ seen ↔ n ∈ seen') : unseen names seen = unseen names seen' := by
  simp [unseen, h]

theorem unseen_cons_lt {names seen : List QualifiedName} {n : QualifiedName} (hn : n ∈ names)
    (hs : n ∉ seen) : unseen names (n :: seen) < unseen names seen := by
  induction names with
  | nil => simp at hn
  | cons m ms ih =>
    -- Seeing more leaves no more unseen.
    have hle : unseen ms (n :: seen) ≤ unseen ms seen := by
      unfold unseen
      rw [← List.countP_eq_length_filter, ← List.countP_eq_length_filter]
      exact List.countP_mono_left fun x _ hx => by simp at hx ⊢; exact hx.2
    unfold unseen at ih hle ⊢
    by_cases hm : m = n
    · subst hm
      rw [List.filter_cons_of_neg (by simp), List.filter_cons_of_pos (by simpa using hs)]
      simp only [List.length_cons]
      omega
    · have hlt := ih ((List.mem_cons.1 hn).resolve_left fun h => hm h.symm)
      by_cases hms : m ∈ seen
      · rw [List.filter_cons_of_neg (by simp [hms]), List.filter_cons_of_neg (by simp [hms])]
        exact hlt
      · rw [List.filter_cons_of_pos (by simp [hms, hm]), List.filter_cons_of_pos (by simp [hms])]
        simp only [List.length_cons]
        omega

/-- The usages in `types` of names not in `seen`, of each name the first. -/
def fresh (seen : List QualifiedName) : List JavaType → List (QualifiedName × JavaType)
  | [] => []
  | t :: ts =>
    match t.name? with
    | none => fresh seen ts
    | some n => if n ∈ seen then fresh seen ts else (n, t) :: fresh (n :: seen) ts

theorem unseen_fresh_le {names : List QualifiedName} (types : List JavaType)
    (h : ∀ t ∈ types, ∀ n, t.name? = some n → n ∈ names) (seen : List QualifiedName) :
    unseen names ((fresh seen types).map (·.1) ++ seen) + (fresh seen types).length ≤
      unseen names seen := by
  induction types generalizing seen with
  | nil => simp [fresh]
  | cons t ts ih =>
    have ih := ih fun t' ht' => h t' (List.mem_cons_of_mem _ ht')
    unfold fresh
    split
    · exact ih seen
    · next n hn =>
      split
      · exact ih seen
      · next hs =>
        -- The new name is no longer unseen, and the others are counted after it.
        have hlt := unseen_cons_lt (h t (List.mem_cons_self ..) n hn) hs
        have hle := ih (n :: seen)
        have hcongr := unseen_congr names
          ((fresh (n :: seen) ts).map (·.1) ++ n :: seen)
          (n :: ((fresh (n :: seen) ts).map (·.1) ++ seen)) fun m => by
            simp only [List.mem_append, List.mem_cons]
            exact or_left_comm
        simp only [List.map_cons, List.cons_append, List.length_cons]
        omega

/-! ## Supertypes -/

/-- The types that the type named `n` extends or implements; none if `n` is not declared. -/
def directSupertypes (c : Catalog) (n : QualifiedName) : List JavaType :=
  (c.find? n).elim [] TypeDecl.directSupertypes

/-- The names of all types that a declaration extends or implements. -/
def mentioned (c : Catalog) : List QualifiedName :=
  c.decls.flatMap fun d => d.directSupertypes.filterMap JavaType.name?

theorem mem_mentioned {c : Catalog} {n m : QualifiedName} {t : JavaType}
    (ht : t ∈ c.directSupertypes n) (hm : t.name? = some m) : m ∈ c.mentioned := by
  unfold directSupertypes at ht
  cases h : c.find? n with
  | none => simp [h] at ht
  | some d =>
    simp only [h, Option.elim_some] at ht
    exact List.mem_flatMap.2
      ⟨d, mem_of_find? h, List.mem_filterMap.2 ⟨t, ht, hm⟩⟩

/-- The supertypes of the types in `queue` whose names are not in `seen`, with their names: those
    of the first type in the queue come first, and are queued themselves. -/
def walk (c : Catalog) (seen queue : List QualifiedName) : List (QualifiedName × JavaType) :=
  match queue with
  | [] => []
  | n :: queue =>
    let new := fresh seen (c.directSupertypes n)
    new ++ walk c (new.map (·.1) ++ seen) (queue ++ new.map (·.1))
termination_by unseen c.mentioned seen + queue.length
decreasing_by
  have := unseen_fresh_le (c.directSupertypes n)
    (fun t ht m hm => mem_mentioned ht hm) seen
  simp only [List.length_append, List.length_map, List.length_cons]
  omega

/-- All supertypes of `n` as they are used in the hierarchy, nearest first, of each name the
    usage found first. -/
def supertypes (c : Catalog) (n : QualifiedName) : List JavaType :=
  (c.walk [n] [n]).map (·.2)

/-- The names of the supertypes of `n`. -/
def supertypeNames (c : Catalog) (n : QualifiedName) : List QualifiedName :=
  (c.supertypes n).filterMap JavaType.name?

/-- Whether `n` is `target` or one of its subtypes. -/
def isSubtypeOf (c : Catalog) (n target : QualifiedName) : Bool :=
  n = target || (c.supertypeNames n).contains target

/-- The interface of types with a natural order. -/
def comparable : QualifiedName := .topLevelIn "java.lang" "Comparable"

/-- Whether the values of `n` have a natural order. -/
def isComparable (c : Catalog) (n : QualifiedName) : Bool := c.isSubtypeOf n comparable

/-! ## Superclasses -/

/-- The class that the type named `n` extends. -/
def superclassName? (c : Catalog) (n : QualifiedName) : Option QualifiedName :=
  (c.find? n).bind TypeDecl.superclassName?

theorem superclassName?_mem_mentioned {c : Catalog} {n s : QualifiedName}
    (h : c.superclassName? n = some s) : s ∈ c.mentioned := by
  obtain ⟨d, hd, hs⟩ := Option.bind_eq_some_iff.1 h
  obtain ⟨t, ht, hts⟩ := Option.bind_eq_some_iff.1 hs
  refine mem_mentioned (n := n) (t := t) ?_ hts
  simp [directSupertypes, hd, TypeDecl.directSupertypes, ht]

/-- The superclasses of `n` up to the first in `seen`. -/
def superclassesFrom (c : Catalog) (seen : List QualifiedName) (n : QualifiedName) :
    List QualifiedName :=
  match h : c.superclassName? n with
  | none => []
  | some s =>
    if hs : s ∈ seen then []
    else
      have := unseen_cons_lt (superclassName?_mem_mentioned h) hs
      s :: superclassesFrom c (s :: seen) s
termination_by unseen c.mentioned seen

/-- The superclasses of `n`, nearest first; a cycle is gone through once. -/
def superclasses (c : Catalog) (n : QualifiedName) : List QualifiedName :=
  c.superclassesFrom [n] n

end AssertionWriter.Catalog
