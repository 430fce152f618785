/-
  AssertionWriter.Proofs.JavaType.Concrete

  Concrete types: those in which no type variable and no wildcard occurs, however deep. The
  type that stands for a type of elements is always one of them, and it is the type itself
  if that is concrete already.
-/
import AssertionWriter.ValueKind

namespace AssertionWriter
namespace JavaType

/-- A type that stands somewhere in another one: it is that type itself, or stands in one of its
    arguments, in its component type or in its bound. -/
inductive OccursIn (u : JavaType) : JavaType → Prop where
  | self : OccursIn u u
  | argument {n : QualifiedName} {as : List JavaType} {t : JavaType} (ht : t ∈ as)
      (h : OccursIn u t) : OccursIn u (.named n as)
  | component {t : JavaType} (h : OccursIn u t) : OccursIn u (.array t)
  | bound {t : JavaType} (h : OccursIn u t) : OccursIn u (.extending t)

/-- Whether the type is a variable or a wildcard, and so leaves open which type it is. -/
def isOpen : JavaType → Bool
  | typeVar _ | unbounded | extending _ => true
  | named .. | array _ => false

/-- No variable and no wildcard occurs in the type. -/
def IsClosed (t : JavaType) : Prop := ∀ u : JavaType, u.OccursIn t → u.isOpen = false

theorem isOpen_eq_false_of_isConcrete {t : JavaType} (h : t.isConcrete = true) :
    t.isOpen = false := by
  cases t with
  | named | array => rfl
  | typeVar | unbounded | extending => cases h

theorem OccursIn.isConcrete {u t : JavaType} (h : u.OccursIn t) (ht : t.isConcrete = true) :
    u.isConcrete = true := by
  induction h with
  | self => exact ht
  | argument hmem _ ih =>
    rw [JavaType.isConcrete, allConcrete_eq_all] at ht
    exact ih (List.all_eq_true.1 ht _ hmem)
  | component _ ih => exact ih ht
  | bound => cases ht

mutual
theorem IsClosed.isConcrete : (t : JavaType) → t.IsClosed → t.isConcrete = true
  | named _ as, h => IsClosed.allConcrete as fun _ ht u hu => h u (.argument ht hu)
  | array c, h => IsClosed.isConcrete c fun u hu => h u (.component hu)
  | typeVar _, h | unbounded, h | extending _, h => absurd (h _ .self) (by simp [isOpen])

theorem IsClosed.allConcrete : (as : List JavaType) → (∀ t ∈ as, t.IsClosed) →
    allConcrete as = true
  | [], _ => rfl
  | a :: as, h => by
    rw [JavaType.allConcrete, Bool.and_eq_true]
    exact ⟨IsClosed.isConcrete a (h a (List.mem_cons_self ..)),
      IsClosed.allConcrete as fun t ht => h t (List.mem_cons_of_mem _ ht)⟩
end

/-- The check finds whatever is left open in a type. -/
theorem isConcrete_iff_isClosed {t : JavaType} : t.isConcrete = true ↔ t.IsClosed :=
  ⟨fun h _ hu => isOpen_eq_false_of_isConcrete (hu.isConcrete h), IsClosed.isConcrete t⟩

theorem isClosed_raw (n : QualifiedName) : (raw n).IsClosed := isConcrete_iff_isClosed.1 rfl

end JavaType

namespace ValueKind
open JavaType

theorem isClosed_concrete (t : JavaType) : (concrete t).IsClosed := by
  rw [← isConcrete_iff_isClosed]
  induction t using concrete.induct with
  | case1 n as hall =>
    rw [concrete, if_pos hall]
    exact hall
  | case2 n as hall =>
    rw [concrete, if_neg hall]
    rfl
  | case3 c ih => exact ih
  | case4 b ih => exact ih
  | case5 | case6 => rfl

theorem concrete_eq_self {t : JavaType} (h : t.IsClosed) : concrete t = t := by
  rw [← isConcrete_iff_isClosed] at h
  induction t using concrete.induct with
  | case1 n as hall => rw [concrete, if_pos hall]
  | case2 n as hall => exact absurd h hall
  | case3 c ih => rw [concrete, ih h]
  | case4 | case5 | case6 => cases h

end ValueKind
end AssertionWriter
