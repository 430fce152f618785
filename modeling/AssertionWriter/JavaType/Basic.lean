/-
  AssertionWriter.JavaType.Basic

  A type as it is used in a declaration: a named type with its arguments, an array, a
  type variable or a wildcard. Holds the views of such a type, its substitution, and
  the decision whether two are equal.
-/
import AssertionWriter.QualifiedName.Basic

namespace AssertionWriter

/-- The use of a type in a declaration. -/
inductive JavaType where
  /-- A nominal type with its arguments, of which there may be none. -/
  | named (name : QualifiedName) (args : List JavaType)
  /-- An array of a component type. -/
  | array (component : JavaType)
  /-- A type variable such as `T`. -/
  | typeVar (name : String)
  /-- The wildcard `?`. -/
  | unbounded
  /-- The wildcard `? extends bound`. -/
  | extending (bound : JavaType)
  deriving Repr, Inhabited

namespace JavaType

/-! ## Equality -/

mutual
/-- Decides the equality of two types. -/
def decEq : (a b : JavaType) → Decidable (a = b)
  | named n as, named m bs =>
    if hn : n = m then
      match decEqAll as bs with
      | isTrue h => isTrue (by rw [hn, h])
      | isFalse h => isFalse (by intro e; injection e; contradiction)
    else isFalse (by intro e; injection e; contradiction)
  | array a, array b =>
    match decEq a b with
    | isTrue h => isTrue (by rw [h])
    | isFalse h => isFalse (by intro e; injection e; contradiction)
  | typeVar a, typeVar b =>
    if h : a = b then isTrue (by rw [h])
    else isFalse (by intro e; injection e; contradiction)
  | unbounded, unbounded => isTrue rfl
  | extending a, extending b =>
    match decEq a b with
    | isTrue h => isTrue (by rw [h])
    | isFalse h => isFalse (by intro e; injection e; contradiction)
  | named .., array _ | named .., typeVar _ | named .., unbounded | named .., extending _
  | array _, named .. | array _, typeVar _ | array _, unbounded | array _, extending _
  | typeVar _, named .. | typeVar _, array _ | typeVar _, unbounded | typeVar _, extending _
  | unbounded, named .. | unbounded, array _ | unbounded, typeVar _ | unbounded, extending _
  | extending _, named .. | extending _, array _ | extending _, typeVar _
  | extending _, unbounded => isFalse (by intro e; cases e)

/-- Decides the equality of two lists of types. -/
def decEqAll : (as bs : List JavaType) → Decidable (as = bs)
  | [], [] => isTrue rfl
  | [], _ :: _ => isFalse (by intro e; cases e)
  | _ :: _, [] => isFalse (by intro e; cases e)
  | a :: as, b :: bs =>
    match decEq a b with
    | isFalse h => isFalse (by intro e; injection e; contradiction)
    | isTrue h =>
      match decEqAll as bs with
      | isFalse h' => isFalse (by intro e; injection e; contradiction)
      | isTrue h' => isTrue (by rw [h, h'])
end

instance : DecidableEq JavaType := decEq

/-! ## Views -/

/-- The use of `n` without arguments. -/
def raw (n : QualifiedName) : JavaType := named n []

/-- The use of the type every class extends. -/
def object : JavaType := raw .object

/-- The nominal type a use refers to; arrays, variables and wildcards have none. -/
def name? : JavaType → Option QualifiedName
  | named n _ => some n
  | _ => none

/-- The arguments of a named type. -/
def args : JavaType → List JavaType
  | named _ as => as
  | _ => []

/-- The component type of an array. -/
def component? : JavaType → Option JavaType
  | array c => some c
  | _ => none

/-- Whether the type is an array. -/
def isArray (t : JavaType) : Bool := t.component?.isSome

/-- Whether the type is a primitive type. -/
def isPrimitive (t : JavaType) : Bool := t.name?.any QualifiedName.isPrimitive

/-- Whether the values of the type are truth values, wrapped or not. -/
def isBoolean (t : JavaType) : Bool :=
  (t.name?.bind QualifiedName.valuePrimitive?) = some .boolean

/-- `t` as the component of `n` nested arrays. -/
def arrays : Nat → JavaType → JavaType
  | 0, t => t
  | n + 1, t => arrays n (array t)

mutual
/-- Whether no variable and no wildcard occurs in the type. -/
def isConcrete : JavaType → Bool
  | named _ as => allConcrete as
  | array c => isConcrete c
  | typeVar _ | unbounded | extending _ => false

/-- Whether every type of a list is concrete. -/
def allConcrete : List JavaType → Bool
  | [] => true
  | a :: as => isConcrete a && allConcrete as
end

theorem allConcrete_eq_all (as : List JavaType) : allConcrete as = as.all isConcrete := by
  induction as with
  | nil => rfl
  | cons a as ih => simp [allConcrete, ih]

/-! ## Substitution -/

/-- Types bound to type variables; of two bindings of a variable the first counts. -/
abbrev Bindings := List (String × JavaType)

mutual
/-- Puts the bound types in the place of their variables; unbound variables stay. -/
def subst (σ : Bindings) : JavaType → JavaType
  | named n as => named n (substAll σ as)
  | array c => array (subst σ c)
  | typeVar v => (σ.lookup v).getD (typeVar v)
  | unbounded => unbounded
  | extending b => extending (subst σ b)

/-- Substitution in every type of a list. -/
def substAll (σ : Bindings) : List JavaType → List JavaType
  | [] => []
  | a :: as => subst σ a :: substAll σ as
end

theorem substAll_eq_map (σ : Bindings) (as : List JavaType) : substAll σ as = as.map (subst σ) := by
  induction as with
  | nil => rfl
  | cons a as ih => simp [substAll, ih]

end JavaType
end AssertionWriter
