/-
  AssertionWriter.Catalog.Elements

  Types whose values can be iterated over, and the type of the elements: the argument
  that a usage gives, through the hierarchy, to the parameter of `Iterable`.
-/
import AssertionWriter.Catalog.Hierarchy

namespace AssertionWriter.Catalog

/-! ## Iterable types -/

/-- The interface that every iterable type implements. -/
def iterable : QualifiedName := .topLevelIn "java.lang" "Iterable"

/-- The types that are iterable without a declaration. -/
def builtInIterables : List QualifiedName :=
  iterable :: ["Collection", "List", "ArrayList", "LinkedList", "Set", "HashSet", "LinkedHashSet",
    "SortedSet", "TreeSet", "Queue", "Deque"].map (.topLevelIn "java.util")

/-- The types that are not taken for containers, although they implement `Iterable`. -/
def notContainers : List QualifiedName := [.topLevelIn "java.nio.file" "Path"]

/-- Whether the values of `n` are taken for containers. -/
def isContainer (c : Catalog) (n : QualifiedName) : Bool :=
  !notContainers.contains n &&
    (builtInIterables.contains n || (c.supertypeNames n).any builtInIterables.contains)

/-! ## The search for the type of the elements -/

/-- The types bound to the parameters of a declaration by the arguments of a usage. -/
def bindings (d : TypeDecl) (args : List JavaType) : JavaType.Bindings := d.typeParameters.zip args

/-- The supertypes of a usage with these arguments, as usages. -/
def supertypesAt (d : TypeDecl) (args : List JavaType) : List JavaType :=
  d.directSupertypes.map (JavaType.subst (bindings d args))

/-- The first argument of a type that is iterable without a declaration. -/
def builtInElement? (n : QualifiedName) (args : List JavaType) : Option JavaType :=
  if n ∈ builtInIterables then args.head? else none

/-- One thing that is left to do in the search. -/
inductive Search where
  /-- Look at a usage. -/
  | visit (usage : JavaType)
  /-- Look at the arguments of a usage whose supertypes gave nothing. -/
  | settle (name : QualifiedName) (args : List JavaType)
  deriving DecidableEq, Repr

/-- The work that a step of the search stands for, apart from what it may add. -/
def Search.weight : Search → Nat
  | visit _ => 2
  | settle _ _ => 1

/-- The work that declarations not yet visited may add. -/
def pendingWork (visited : List QualifiedName) : List TypeDecl → Nat
  | [] => 0
  | d :: ds =>
    (if d.name ∈ visited then 0 else 2 * d.directSupertypes.length) + pendingWork visited ds

theorem pendingWork_cons_le (visited : List QualifiedName) (n : QualifiedName)
    (decls : List TypeDecl) : pendingWork (n :: visited) decls ≤ pendingWork visited decls := by
  induction decls with
  | nil => simp [pendingWork]
  | cons e es ih =>
    simp only [pendingWork, List.mem_cons]
    by_cases hv : e.name ∈ visited
    · simpa [hv] using ih
    · by_cases hn : e.name = n
      · simp only [hn, true_or, if_true]
        omega
      · simp only [hn, hv, false_or, if_false]
        omega

theorem pendingWork_visit (visited : List QualifiedName) {d : TypeDecl} {decls : List TypeDecl}
    (hd : d ∈ decls) (hv : d.name ∉ visited) :
    pendingWork (d.name :: visited) decls + 2 * d.directSupertypes.length ≤
      pendingWork visited decls := by
  induction decls with
  | nil => simp at hd
  | cons e es ih =>
    simp only [pendingWork, List.mem_cons]
    rcases List.mem_cons.1 hd with rfl | hd
    · have := pendingWork_cons_le visited d.name es
      simp only [true_or, if_true, hv, if_false]
      omega
    · have ih := ih hd
      by_cases hev : e.name ∈ visited
      · simpa [hev] using ih
      · by_cases hn : e.name = d.name
        · simp only [hn, true_or, if_true, hv, if_false]
          omega
        · simp only [hn, hev, false_or, if_false]
          omega

/-- The work of several steps. -/
def totalWeight : List Search → Nat
  | [] => 0
  | s :: ss => s.weight + totalWeight ss

theorem totalWeight_append (ss ts : List Search) :
    totalWeight (ss ++ ts) = totalWeight ss + totalWeight ts := by
  induction ss with
  | nil => simp [totalWeight]
  | cons s ss ih =>
    rw [List.cons_append, totalWeight, totalWeight, ih]
    omega

theorem totalWeight_visit (us : List JavaType) :
    totalWeight (us.map .visit) = 2 * us.length := by
  induction us with
  | nil => rfl
  | cons u us ih =>
    rw [List.map_cons, totalWeight, ih, Search.weight, List.length_cons]
    omega

/-- What the steps of a search find. A usage of `Iterable` gives its argument; any other sends the
    search to the supertypes of its type, unless they have been visited, and then to the
    arguments of the usage itself. -/
def search (c : Catalog) (visited : List QualifiedName) (steps : List Search) : Option JavaType :=
  match steps with
  | [] => none
  | .settle n args :: rest => (builtInElement? n args).or (search c visited rest)
  | .visit (.named n args) :: rest =>
    if n = iterable then args.head?.or (search c visited rest)
    else
      -- The supertypes come first; the arguments of the usage itself are the last resort.
      match h : c.find? n with
      | none => search c visited (.settle n args :: rest)
      | some d =>
        if hv : n ∈ visited then search c visited (.settle n args :: rest)
        else
          have := pendingWork_visit visited (mem_of_find? h)
            (by rwa [name_of_find? h])
          search c (n :: visited)
            ((supertypesAt d args).map .visit ++ .settle n args :: rest)
  | .visit _ :: rest => search c visited rest
termination_by pendingWork visited c.decls + totalWeight steps
decreasing_by
  all_goals simp only [totalWeight, Search.weight]
  all_goals try omega
  -- The one step that adds work visits a declaration, whose supertypes pay for it.
  simp only [name_of_find? h] at this
  rw [totalWeight_append, totalWeight_visit, supertypesAt, List.length_map, totalWeight,
    Search.weight]
  omega

/-- The type of the elements of a usage. -/
def elementArgument? (c : Catalog) (usage : JavaType) : Option JavaType :=
  c.search [] [.visit usage]

end AssertionWriter.Catalog
