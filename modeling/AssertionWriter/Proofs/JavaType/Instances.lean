/-
  AssertionWriter.Proofs.JavaType.Instances

  What stands in an instance of a type: the instances of its parts, and the parts of the
  types that have been put in for its variables, in which nothing is replaced any more. So
  an instance leaves open what the type leaves open and the bound types do, and nothing else.
-/
import AssertionWriter.Proofs.JavaType.Substitution
import AssertionWriter.Proofs.JavaType.Concrete

namespace AssertionWriter.JavaType

variable {t u w : JavaType} {v : String} {σ : Bindings}

/-! ## Parts -/

theorem OccursIn.trans (hu : u.OccursIn w) (hw : w.OccursIn t) : u.OccursIn t := by
  induction hw with
  | self => exact hu
  | argument hmem _ ih => exact .argument hmem ih
  | component _ ih => exact .component ih
  | bound _ ih => exact .bound ih

/-- What has become of a part stands in the instance. -/
theorem OccursIn.subst (σ : Bindings) (h : u.OccursIn t) : (u.subst σ).OccursIn (t.subst σ) := by
  induction h with
  | self => exact .self
  | argument hmem _ ih =>
    rw [JavaType.subst, substAll_eq_map]
    exact .argument (List.mem_map_of_mem hmem) ih
  | component _ ih => exact .component ih
  | bound _ ih => exact .bound ih

/-! ## Parts of an instance -/

theorem subst_typeVar_of_bound {r : JavaType} (h : σ.lookup v = some r) :
    (typeVar v).subst σ = r := by
  rw [subst, h, Option.getD_some]

theorem subst_typeVar_of_unbound (h : σ.lookup v = none) : (typeVar v).subst σ = typeVar v := by
  rw [subst, h, Option.getD_none]

/-- The ways in which `u` comes to stand in the instance of a type. -/
inductive ArisesIn (σ : Bindings) (u t : JavaType) : Prop where
  /-- A part that is no variable has become `u`. -/
  | instantiated {w : JavaType} (hw : w.OccursIn t) (hvar : w.isTypeVar = false)
      (hu : u = w.subst σ)
  /-- It stands, as it is, in the type bound to a variable. -/
  | inserted {v : String} {r : JavaType} (hv : (typeVar v).OccursIn t)
      (hr : σ.lookup v = some r) (hu : u.OccursIn r)
  /-- It is a variable that is not bound. -/
  | kept {v : String} (hv : (typeVar v).OccursIn t) (hr : σ.lookup v = none)
      (hu : u = typeVar v)

theorem ArisesIn.of_part (h : ArisesIn σ u w) (hw : w.OccursIn t) : ArisesIn σ u t := by
  cases h with
  | instantiated hpart hvar hu => exact .instantiated (hpart.trans hw) hvar hu
  | inserted hv hr hu => exact .inserted (hv.trans hw) hr hu
  | kept hv hr hu => exact .kept (hv.trans hw) hr hu

theorem arisesIn_typeVar (h : u.OccursIn ((typeVar v).subst σ)) : ArisesIn σ u (typeVar v) := by
  cases hr : σ.lookup v with
  | some r =>
    rw [subst_typeVar_of_bound hr] at h
    exact .inserted .self hr h
  | none =>
    rw [subst_typeVar_of_unbound hr] at h
    cases h with
    | self => exact .kept .self hr rfl

/-- Whatever stands in the instance has come there in one of these ways. -/
theorem OccursIn.arisesIn : (t : JavaType) → u.OccursIn (t.subst σ) → ArisesIn σ u t
  | named n as, h => by
    rw [JavaType.subst, substAll_eq_map] at h
    cases h with
    | self => exact .instantiated .self rfl (by rw [JavaType.subst, substAll_eq_map])
    | argument hmem h =>
      -- The argument is that of the type, instantiated, and so the recursion is on the latter.
      obtain ⟨a, ha, rfl⟩ := List.mem_map.1 hmem
      exact (OccursIn.arisesIn a h).of_part (.argument ha .self)
  | array c, h => by
    rw [JavaType.subst] at h
    cases h with
    | self => exact .instantiated .self rfl (by rw [JavaType.subst])
    | component h => exact (OccursIn.arisesIn c h).of_part (.component .self)
  | typeVar _, h => arisesIn_typeVar h
  | unbounded, h => by
    rw [JavaType.subst] at h
    cases h with
    | self => exact .instantiated .self rfl rfl
  | extending b, h => by
    rw [JavaType.subst] at h
    cases h with
    | self => exact .instantiated .self rfl (by rw [JavaType.subst])
    | bound h => exact (OccursIn.arisesIn b h).of_part (.bound .self)
termination_by t => sizeOf t

/-- What stands in an instance; the types that have been put in stand there as they are bound. -/
theorem occursIn_subst_iff : u.OccursIn (t.subst σ) ↔ ArisesIn σ u t := by
  refine ⟨OccursIn.arisesIn t, fun h => ?_⟩
  cases h with
  | instantiated hw _ hu => exact hu ▸ hw.subst σ
  | inserted hv hr hu => exact hu.trans (subst_typeVar_of_bound hr ▸ hv.subst σ)
  | kept hv hr hu => exact hu ▸ subst_typeVar_of_unbound hr ▸ hv.subst σ

/-! ## Concrete instances -/

/-- Whether the type is a wildcard. -/
def isWildcard : JavaType → Bool
  | unbounded | extending _ => true
  | named .. | array _ | typeVar _ => false

/-- Substitution neither opens nor closes a type that is no variable. -/
theorem isOpen_subst (h : t.isTypeVar = false) : (t.subst σ).isOpen = t.isWildcard := by
  cases t with
  | typeVar v => exact absurd h (by simp [isTypeVar])
  | named | array | unbounded | extending => rfl

theorem isConcrete_subst_typeVar_iff :
    ((typeVar v).subst σ).isConcrete = true ↔
      ∃ r, σ.lookup v = some r ∧ r.isConcrete = true := by
  cases hr : σ.lookup v with
  | none => simp [subst_typeVar_of_unbound hr, isConcrete]
  | some r => simp [subst_typeVar_of_bound hr]

/-- An instance is concrete exactly if no wildcard stands in the type and each of its variables is
    bound to a concrete type. -/
theorem isConcrete_subst_iff :
    (t.subst σ).isConcrete = true ↔
      (∀ w : JavaType, w.OccursIn t → w.isWildcard = false) ∧
        ∀ v : String, (typeVar v).OccursIn t →
          ∃ r, σ.lookup v = some r ∧ r.isConcrete = true := by
  refine ⟨fun h => ⟨fun w hw => ?_, fun v hv => ?_⟩, fun ⟨hwild, hbound⟩ => ?_⟩
  · -- A wildcard would stay one in the instance.
    have hclosed := isOpen_eq_false_of_isConcrete ((hw.subst σ).isConcrete h)
    cases w with
    | named | array | typeVar => rfl
    | unbounded | extending => cases hclosed
  · exact isConcrete_subst_typeVar_iff.1 ((hv.subst σ).isConcrete h)
  · -- Something open in the instance would be a wildcard of the type, or open in a bound type.
    rw [isConcrete_iff_isClosed]
    intro u hu
    cases occursIn_subst_iff.1 hu with
    | instantiated hw hvar hu => rw [hu, isOpen_subst hvar, hwild _ hw]
    | inserted hv hr hu =>
      obtain ⟨r, hr', hconcrete⟩ := hbound _ hv
      obtain rfl := Option.some.inj (hr.symm.trans hr')
      exact isOpen_eq_false_of_isConcrete (hu.isConcrete hconcrete)
    | kept hv hr =>
      obtain ⟨r, hr', -⟩ := hbound _ hv
      exact absurd (hr.symm.trans hr') (by simp)

/-- Substitution is simultaneous: what has been put in for a variable stands there as it is bound.
    A second one can be done together with it, by substituting in the bound types as well; and the
    result is concrete exactly if nothing open is left over or has been put in. -/
theorem subst_simultaneous (t : JavaType) (σ τ : Bindings) :
    (∀ u : JavaType, u.OccursIn (t.subst σ) ↔ ArisesIn σ u t) ∧
      (t.subst σ).subst τ = t.subst (σ.andThen τ) ∧
      ((t.subst σ).isConcrete = true ↔
        (∀ w : JavaType, w.OccursIn t → w.isWildcard = false) ∧
          ∀ v : String, (typeVar v).OccursIn t →
            ∃ r, σ.lookup v = some r ∧ r.isConcrete = true) :=
  ⟨fun _ => occursIn_subst_iff, subst_subst σ τ t, isConcrete_subst_iff⟩

-- The variables change places at once, and the second entry for `A` does not count.
example :
    let pair : QualifiedName := ⟨"a", [], "Pair"⟩
    let σ : Bindings := [("A", typeVar "B"), ("B", typeVar "A"), ("A", unbounded)]
    let t := (named pair [typeVar "A", array (typeVar "B")]).subst σ
    t = named pair [typeVar "B", array (typeVar "A")] ∧
      (t.subst [("A", object)]).isConcrete = false ∧
      (t.subst [("A", object), ("B", object)]).isConcrete = true := by
  decide

end AssertionWriter.JavaType
