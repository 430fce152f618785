/-
  AssertionWriter.Proofs.Generation.NeededRoles

  The roles that sources need templates for, in the order of need. A source can be made if
  all its roles have templates, and otherwise the first of them that has none is the one
  that the failure names.
-/
import AssertionWriter.Generation.SourceFile
import AssertionWriter.Proofs.Template.Loading

namespace AssertionWriter
open Template

/-! ## The first missing template -/

/-- The first of some roles that has no template. -/
def TemplateSet.IsFirstMissing (t : TemplateSet) (needed : List Role) (r : Role) : Prop :=
  ∃ front back, needed = front ++ r :: back ∧ (∀ q ∈ front, t.find? q ≠ none) ∧ t.find? r = none

/-- What is made from templates fails for the first needed role that has none, and only then. -/
def Needs {α : Type} (t : TemplateSet) (needed : List Role) (made : Except Role α) : Prop :=
  ∀ r, made = .error r ↔ t.IsFirstMissing needed r

namespace TemplateSet
variable {t : TemplateSet} {needed later : List Role} {r : Role}

theorem not_isFirstMissing_nil : ¬t.IsFirstMissing [] r := by
  rintro ⟨front, back, h, -⟩
  exact absurd h.symm (by simp)

theorem isFirstMissing_cons_iff {q : Role} :
    t.IsFirstMissing (q :: needed) r ↔
      t.find? q = none ∧ r = q ∨ t.find? q ≠ none ∧ t.IsFirstMissing needed r := by
  constructor
  · rintro ⟨_ | ⟨p, front⟩, back, h, hfront, hr⟩
    · obtain ⟨rfl, -⟩ := List.cons.inj h
      exact .inl ⟨hr, rfl⟩
    · obtain ⟨rfl, rfl⟩ := List.cons.inj h
      exact .inr ⟨hfront q (List.mem_cons_self ..), front, back, rfl,
        fun p hp => hfront p (List.mem_cons_of_mem _ hp), hr⟩
  · rintro (⟨hq, rfl⟩ | ⟨hq, front, back, rfl, hfront, hr⟩)
    · exact ⟨[], needed, rfl, List.forall_mem_nil _, hq⟩
    · exact ⟨q :: front, back, rfl, List.forall_mem_cons.2 ⟨hq, hfront⟩, hr⟩

theorem isFirstMissing_append_iff :
    t.IsFirstMissing (needed ++ later) r ↔
      t.IsFirstMissing needed r ∨ (∀ q ∈ needed, t.find? q ≠ none) ∧ t.IsFirstMissing later r := by
  induction needed with
  | nil => simp [not_isFirstMissing_nil]
  | cons q needed ih =>
    rw [List.cons_append, isFirstMissing_cons_iff, isFirstMissing_cons_iff, ih,
      List.forall_mem_cons]
    by_cases hq : t.find? q = none
    · simp [hq]
    · simp [hq]

/-- Where a template is missing, there is a first one. -/
theorem exists_isFirstMissing_iff :
    (∃ r, t.IsFirstMissing needed r) ↔ ∃ r ∈ needed, t.find? r = none := by
  constructor
  · rintro ⟨r, front, back, rfl, -, hr⟩
    exact ⟨r, by simp, hr⟩
  · rintro ⟨r, hr, hnone⟩
    induction needed with
    | nil => cases hr
    | cons q needed ih =>
      by_cases hq : t.find? q = none
      · exact ⟨q, isFirstMissing_cons_iff.2 (.inl ⟨hq, rfl⟩)⟩
      · obtain ⟨first, hfirst⟩ := ih ((List.mem_cons.1 hr).resolve_left fun heq => hq (heq ▸ hnone))
        exact ⟨first, isFirstMissing_cons_iff.2 (.inr ⟨hq, hfirst⟩)⟩

end TemplateSet

/-! ## Sequences -/

namespace Needs
variable {α β : Type} {t : TemplateSet} {needed later : List Role} {x : Except Role α}

/-- There is a result exactly if no template is missing. -/
theorem exists_ok_iff (h : Needs t needed x) :
    (∃ a, x = .ok a) ↔ ∀ q ∈ needed, t.find? q ≠ none := by
  have hmissing : (∃ r, x = .error r) ↔ ∃ r ∈ needed, t.find? r = none :=
    (exists_congr h).trans TemplateSet.exists_isFirstMissing_iff
  cases x with
  | error r =>
    obtain ⟨q, hq, hnone⟩ := hmissing.1 ⟨r, rfl⟩
    exact ⟨nofun, fun hall => absurd hnone (hall q hq)⟩
  | ok a =>
    refine ⟨fun _ q hq hnone => ?_, fun _ => ⟨a, rfl⟩⟩
    obtain ⟨r, hr⟩ := hmissing.2 ⟨q, hq, hnone⟩
    cases hr

theorem exists_ok (h : Needs t needed x) (ht : t.Complete) : ∃ a, x = .ok a := by
  refine h.exists_ok_iff.2 fun q _ hnone => ?_
  obtain ⟨body, hbody⟩ := ht q
  rw [hbody] at hnone
  cases hnone

theorem ok (t : TemplateSet) (a : α) : Needs t [] (.ok a) :=
  fun _ => ⟨nofun, fun h => absurd h TemplateSet.not_isFirstMissing_nil⟩

/-- What comes second is only needed if nothing was missing before. -/
theorem bind {f : α → Except Role β} (hx : Needs t needed x) (hf : ∀ a, Needs t later (f a)) :
    Needs t (needed ++ later) (x >>= f) := by
  intro r
  -- That nothing was missing before is the same as that there is a result to go on with.
  rw [bind_eq_error_iff, TemplateSet.isFirstMissing_append_iff, hx r, ← hx.exists_ok_iff]
  refine or_congr_right ⟨?_, ?_⟩
  · rintro ⟨a, ha, hr⟩
    exact ⟨⟨a, ha⟩, (hf a r).1 hr⟩
  · rintro ⟨⟨a, ha⟩, hr⟩
    exact ⟨a, ha, (hf a r).2 hr⟩

theorem map {f : α → Except Role β} (hx : Needs t needed x) (hf : ∀ a, Needs t [] (f a)) :
    Needs t needed (x >>= f) :=
  List.append_nil needed ▸ hx.bind hf

/-- The items of a list need their roles one after the other. -/
theorem mapM {γ : Type} {f : γ → Except Role α} {role : γ → Role}
    (hf : ∀ c, Needs t [role c] (f c)) (cs : List γ) : Needs t (cs.map role) (cs.mapM f) := by
  induction cs with
  | nil => exact ok t []
  | cons c cs ih =>
    rw [List.mapM_cons]
    exact (hf c).bind fun _ => ih.map fun _ => ok t _

end Needs

/-! ## Classes -/

/-- What the assertion class with all methods needs: its frame, and then the methods. -/
def Surface.flatRoles (s : Surface) : List Role := .assertClass :: s.properties.map (·.role s)

/-- What the abstract assertion class and the concrete one need: the frame of the abstract class,
    its methods, and then the other frame. -/
def Surface.hierarchicalRoles (s : Surface) : List Role :=
  .abstractAssertClass :: s.declaredProperties.map (·.role s) ++ [.hierarchicalAssertClass]

namespace ClassWriter

theorem needs_template (w : ClassWriter) (r : Role) : Needs w.templates [r] (w.template r) := by
  intro q
  rw [template, TemplateSet.isFirstMissing_cons_iff]
  cases hr : w.templates.find? r with
  | none => simp [TemplateSet.not_isFirstMissing_nil, eq_comm]
  | some body => simp [TemplateSet.not_isFirstMissing_nil]

theorem needs_methods (w : ClassWriter) (s : Surface) (p : Property) :
    Needs w.templates [p.role s] (w.methods s p) :=
  (w.needs_template (p.role s)).map fun _ => .ok _ _

theorem needs_body (w : ClassWriter) (s : Surface) (r : Role) (properties : List Property) :
    Needs w.templates (r :: properties.map (·.role s)) (w.body s r properties) := by
  have hframe : Needs w.templates [r] (w.frame s r) :=
    (w.needs_template r).map fun _ => .ok _ _
  exact hframe.bind fun _ => (Needs.mapM (w.needs_methods s) properties).map fun _ => .ok _ _

theorem needs_flat (w : ClassWriter) (s : Surface) : Needs w.templates s.flatRoles (w.flat s) :=
  (w.needs_body s .assertClass s.properties).map fun _ => .ok _ _

theorem needs_hierarchical (w : ClassWriter) (s : Surface) (batch : List QualifiedName) :
    Needs w.templates s.hierarchicalRoles (w.hierarchical s batch) :=
  (w.needs_body s .abstractAssertClass s.declaredProperties).bind fun _ =>
    (w.needs_body s .hierarchicalAssertClass []).map fun _ => .ok _ _

end ClassWriter

/-! ## Entry points -/

/-- What an entry point needs: the templates of its class and of its methods, if there is anything
    to enter. -/
def EntryPoint.roles (ss : List Surface) (mode : EntryPointMode) : List Role :=
  if ss.isEmpty then [] else [mode.classRole, mode.methodRole]

theorem EntryPoint.needs_source (w : ClassWriter) (ss : List Surface) (mode : EntryPointMode) :
    Needs w.templates (roles ss mode) (source w ss mode) := by
  rw [source, roles]
  split
  · exact .ok _ _
  · exact (w.needs_template mode.classRole).bind fun _ =>
      (w.needs_template mode.methodRole).map fun _ => .ok _ _

/-! ## Files -/

namespace SourceWriter

theorem needs_flatFile (w : SourceWriter) (s : Surface) :
    Needs w.templates s.flatRoles (w.flatFile s) :=
  (w.needs_flat s).map fun _ => .ok _ _

theorem needs_hierarchicalFiles (w : SourceWriter) (s : Surface) (batch : List QualifiedName) :
    Needs w.templates s.hierarchicalRoles (w.hierarchicalFiles s batch) :=
  (w.needs_hierarchical s batch).map fun _ => .ok _ _

theorem needs_entryPointFile? (w : SourceWriter) (ss : List Surface) (mode : EntryPointMode) :
    Needs w.templates (EntryPoint.roles ss mode) (w.entryPointFile? ss mode) := by
  refine (EntryPoint.needs_source w.toClassWriter ss mode).map fun source => ?_
  dsimp only
  split
  · exact .ok _ _
  · exact .ok _ _

end SourceWriter
end AssertionWriter
