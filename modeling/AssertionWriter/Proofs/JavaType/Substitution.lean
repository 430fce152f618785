/-
  AssertionWriter.Proofs.JavaType.Substitution

  What a substitution does to a type: it depends on the bindings of the variables that
  occur, one substitution after the other is a single one, and a type that is no variable
  itself keeps its name.
-/
import AssertionWriter.JavaType.Basic

namespace AssertionWriter.JavaType

/-! ## Variables -/

mutual
/-- The variables that occur in the type. -/
def typeVars : JavaType → List String
  | named _ as => allTypeVars as
  | array c => typeVars c
  | typeVar v => [v]
  | unbounded => []
  | extending b => typeVars b

/-- The variables that occur in some type of a list. -/
def allTypeVars : List JavaType → List String
  | [] => []
  | a :: as => typeVars a ++ allTypeVars as
end

/-- Whether the type is a variable itself. -/
def isTypeVar : JavaType → Bool
  | typeVar _ => true
  | _ => false

mutual
/-- Only the bindings of the variables in the type count. -/
theorem subst_congr {σ τ : Bindings} : (t : JavaType) →
    (∀ v ∈ t.typeVars, σ.lookup v = τ.lookup v) → t.subst σ = t.subst τ
  | named n as, h => by rw [subst, subst, substAll_congr as h]
  | array c, h => by rw [subst, subst, subst_congr c h]
  | typeVar v, h => by rw [subst, subst, h v (List.mem_singleton_self v)]
  | unbounded, _ => rfl
  | extending b, h => by rw [subst, subst, subst_congr b h]

theorem substAll_congr {σ τ : Bindings} : (as : List JavaType) →
    (∀ v ∈ allTypeVars as, σ.lookup v = τ.lookup v) → substAll σ as = substAll τ as
  | [], _ => rfl
  | a :: as, h => by
    rw [substAll, substAll, subst_congr a fun v hv => h v (List.mem_append_left _ hv),
      substAll_congr as fun v hv => h v (List.mem_append_right _ hv)]
end

/-! ## One substitution after another -/

/-- What `σ` binds, with `τ` put into the bound types, and behind it what `τ` binds. -/
def Bindings.andThen (σ τ : Bindings) : Bindings := σ.map (fun b => (b.1, b.2.subst τ)) ++ τ

theorem lookup_map_subst (σ τ : Bindings) (v : String) :
    (σ.map fun b => (b.1, b.2.subst τ)).lookup v = (σ.lookup v).map (subst τ) := by
  induction σ with
  | nil => rfl
  | cons b σ ih =>
    rw [List.map_cons, List.lookup_cons, List.lookup_cons]
    split
    · rfl
    · exact ih

theorem lookup_andThen (σ τ : Bindings) (v : String) :
    (σ.andThen τ).lookup v = ((σ.lookup v).map (subst τ)).or (τ.lookup v) := by
  rw [Bindings.andThen, List.lookup_append, lookup_map_subst]

mutual
/-- What has been put in for a variable is substituted itself, but not searched again. -/
theorem subst_subst (σ τ : Bindings) :
    (t : JavaType) → (t.subst σ).subst τ = t.subst (σ.andThen τ)
  | named n as => by rw [subst, subst, subst, substAll_substAll σ τ as]
  | array c => by rw [subst, subst, subst, subst_subst σ τ c]
  | typeVar v => by
    rw [subst, subst, lookup_andThen]
    cases σ.lookup v with
    | none => rfl
    | some t => rfl
  | unbounded => rfl
  | extending b => by rw [subst, subst, subst, subst_subst σ τ b]

theorem substAll_substAll (σ τ : Bindings) :
    (as : List JavaType) → substAll τ (substAll σ as) = substAll (σ.andThen τ) as
  | [] => rfl
  | a :: as => by
    rw [substAll, substAll, substAll, subst_subst σ τ a, substAll_substAll σ τ as]
end

/-- If every variable is bound, the second substitution matters for the bound types alone: no
    variable of the type itself is captured by it. -/
theorem subst_subst_of_bound {σ : Bindings} (τ : Bindings) {t : JavaType}
    (h : ∀ v ∈ t.typeVars, σ.lookup v ≠ none) :
    (t.subst σ).subst τ = t.subst (σ.map fun b => (b.1, b.2.subst τ)) := by
  rw [subst_subst]
  refine subst_congr t fun v hv => ?_
  obtain ⟨u, hu⟩ := Option.ne_none_iff_exists'.1 (h v hv)
  rw [lookup_andThen, lookup_map_subst, hu]
  rfl

/-- Arguments for all parameters bind each of them. -/
theorem lookup_zip_ne_none {parameters : List String} {args : List JavaType}
    (hlength : args.length = parameters.length) {v : String} (hv : v ∈ parameters) :
    (parameters.zip args).lookup v ≠ none := by
  have hkeys : (parameters.zip args).map Prod.fst = parameters :=
    List.map_fst_zip (Nat.le_of_eq hlength.symm)
  intro hnone
  rw [← hkeys, List.mem_map] at hv
  obtain ⟨b, hb, rfl⟩ := hv
  have hne := List.lookup_eq_none_iff.1 hnone b hb
  simp at hne

/-! ## Names and arguments -/

variable {σ : Bindings} {t : JavaType}

theorem name?_subst (h : t.isTypeVar = false) : (t.subst σ).name? = t.name? := by
  cases t with
  | typeVar v => exact absurd h (by simp [isTypeVar])
  | named | array | unbounded | extending => rfl

theorem args_subst (h : t.isTypeVar = false) : (t.subst σ).args = t.args.map (subst σ) := by
  cases t with
  | typeVar v => exact absurd h (by simp [isTypeVar])
  | named n as => exact substAll_eq_map σ as
  | array | unbounded | extending => rfl

theorem isTypeVar_subst (h : t.isTypeVar = false) : (t.subst σ).isTypeVar = false := by
  cases t with
  | typeVar v => exact absurd h (by simp [isTypeVar])
  | named | array | unbounded | extending => rfl

end AssertionWriter.JavaType
