/-
  AssertionWriter.Proofs.Template.Overriding

  What taking templates from a directory comes to, whatever the directory holds. If every
  file in it that is for a role can be read, all of these roles get their texts; otherwise the
  roles before the first file that cannot be read do, and that role and those after it keep
  what they had. No file is changed in either case.
-/
import AssertionWriter.Proofs.Template.Loading

namespace AssertionWriter
open Files Template

namespace TemplateSet

section
variable {σ : Type} [FileAccess (StateM σ)] {s : σ} {directory : String} {t t' : TemplateSet}
  {r : Role} {roles front : List Role}

/-! ## Taking texts -/

/-- The directory holds a text for the role, or nothing. -/
def IsReadable (s : σ) (directory : String) (r : Role) : Prop :=
  ∀ cause, held s directory r ≠ some (.error cause)

/-- The directory holds a file for the role. -/
def holdsFile (s : σ) (directory : String) (r : Role) : Bool := (held s directory r).isSome

/-- Of the given roles, those that the directory has a text for have it in the second set of
    templates, and those that it has no file for have what they have in the first. -/
structure Takes (s : σ) (directory : String) (roles : List Role) (t t' : TemplateSet) : Prop where
  taken : ∀ r ∈ roles, ∀ body, held s directory r = some (.ok body) → t'.find? r = some body
  kept : ∀ r ∈ roles, held s directory r = none → t'.find? r = t.find? r

/-- The templates with the texts that the directory has for some roles. -/
def taking (t : TemplateSet) (s : σ) (directory : String) (roles : List Role) : TemplateSet :=
  ⟨fun r =>
    if r ∈ roles then
      match held s directory r with
      | some (.ok body) => some body
      | _ => t.find? r
    else t.find? r⟩

theorem find?_taking_of_mem (h : r ∈ roles) :
    (t.taking s directory roles).find? r =
      match held s directory r with
      | some (.ok body) => some body
      | _ => t.find? r := if_pos h

theorem find?_taking_of_not_mem (h : r ∉ roles) :
    (t.taking s directory roles).find? r = t.find? r := if_neg h

theorem takes_taking (s : σ) (directory : String) (roles : List Role) (t : TemplateSet) :
    Takes s directory roles t (t.taking s directory roles) where
  taken r hr body hheld := by rw [find?_taking_of_mem hr, hheld]
  kept r hr hheld := by rw [find?_taking_of_mem hr, hheld]

/-- What can be read settles what the roles have afterwards. -/
theorem Takes.find?_eq (h : Takes s directory roles t t')
    (hread : ∀ r ∈ roles, IsReadable s directory r) (hr : r ∈ roles) :
    t'.find? r = (t.taking s directory roles).find? r := by
  have htaking := takes_taking s directory roles t
  match hheld : held s directory r with
  | none => rw [h.kept r hr hheld, htaking.kept r hr hheld]
  | some (.ok body) => rw [h.taken r hr body hheld, htaking.taken r hr body hheld]
  | some (.error cause) => exact absurd hheld (hread r hr cause)

theorem eq_of_find? (h : ∀ r, t.find? r = t'.find? r) : t = t' := congrArg mk (funext h)

theorem taking_cons_of_none (h : held s directory r = none) :
    t.taking s directory (r :: roles) = t.taking s directory roles := by
  refine eq_of_find? fun q => ?_
  simp only [taking, List.mem_cons]
  by_cases hq : q = r
  · subst hq
    simp [h]
  · simp [hq]

theorem taking_cons_of_text {body : String} (h : held s directory r = some (.ok body)) :
    t.taking s directory (r :: roles) = (t.set r body).taking s directory roles := by
  refine eq_of_find? fun q => ?_
  simp only [taking, List.mem_cons, find?_set]
  by_cases hq : q = r
  · subst hq
    simp [h]
  · simp [hq]

/-! ## The outcomes -/

/-- The outcomes of taking templates from a directory: what becomes of the templates, and the
    roles that got one or the error. -/
inductive Overrides (s : σ) (directory : String) (t : TemplateSet) :
    TemplateSet × Except TemplateError (List Role) → Prop
  /-- Nothing stands at the path. -/
  | absent (habsent : ((FileAccess.isPresent directory : StateM σ _).run s).1 = false) :
      Overrides s directory t (t, .error (.notFound directory))
  /-- All files that are there can be read. -/
  | complete {t' : TemplateSet}
      (hpresent : ((FileAccess.isPresent directory : StateM σ _).run s).1 = true)
      (hread : ∀ r ∈ Role.all, IsReadable s directory r)
      (htakes : Takes s directory Role.all t t') :
      Overrides s directory t (t', .ok (Role.all.filter (holdsFile s directory)))
  /-- The file for the role `r` is the first that cannot be read. -/
  | stopped {t' : TemplateSet} {front back : List Role} {r : Role} {cause : FileError}
      (hpresent : ((FileAccess.isPresent directory : StateM σ _).run s).1 = true)
      (hall : Role.all = front ++ r :: back)
      (hread : ∀ q ∈ front, IsReadable s directory q)
      (hr : held s directory r = some (.error cause))
      (htakes : Takes s directory front t t')
      (hkept : ∀ q ∈ r :: back, t'.find? q = t.find? q) :
      Overrides s directory t (t', .error (.unreadable (under directory r.file) cause))

/-- Either all roles are readable, or there is a first one that is not. -/
theorem readable_or_first (s : σ) (directory : String) (roles : List Role) :
    (∀ r ∈ roles, IsReadable s directory r) ∨
      ∃ front r back cause, roles = front ++ r :: back ∧
        (∀ q ∈ front, IsReadable s directory q) ∧ held s directory r = some (.error cause) := by
  induction roles with
  | nil => exact .inl (List.forall_mem_nil _)
  | cons r roles ih =>
    by_cases hr : IsReadable s directory r
    · rcases ih with ih | ⟨front, r', back, cause, rfl, hfront, hr'⟩
      · exact .inl (List.forall_mem_cons.2 ⟨hr, ih⟩)
      · exact .inr ⟨r :: front, r', back, cause, rfl, List.forall_mem_cons.2 ⟨hr, hfront⟩, hr'⟩
    · obtain ⟨cause, hcause⟩ := Classical.not_forall_not.1 hr
      exact .inr ⟨[], r, roles, cause, rfl, List.forall_mem_nil _, hcause⟩

/-! ## Runs -/

variable [Undisturbed σ]

/-- Roles that are readable are done with before the others. -/
theorem run_overrideEach_append (rest : List Role) (t : TemplateSet)
    (hfront : ∀ q ∈ front, IsReadable s directory q) :
    ((overrideEach directory t (front ++ rest) : StateM σ _).run s).1 =
      ((overrideEach directory (t.taking s directory front) rest : StateM σ _).run s).1.map id
        (·.map (front.filter (holdsFile s directory) ++ ·)) := by
  -- Only the templates change from role to role: nobody changes the files, so what is held for
  -- the roles still to come is what was held for them at the start.
  induction front generalizing t with
  | nil =>
    have htaking : t.taking s directory [] = t :=
      eq_of_find? fun _ => find?_taking_of_not_mem List.not_mem_nil
    rw [htaking, List.nil_append]
    obtain ⟨t', _ | roles⟩ := ((overrideEach directory t rest : StateM σ _).run s).1
    · rfl
    · rfl
  | cons r front ih =>
    obtain ⟨hr, hfront⟩ := List.forall_mem_cons.1 hfront
    rw [List.cons_append, run_overrideEach_cons]
    match hheld : held s directory r with
    | none =>
      have hfile : ¬holdsFile s directory r = true := by simp [holdsFile, hheld]
      rw [taking_cons_of_none hheld, List.filter_cons_of_neg hfile]
      exact ih t hfront
    | some (.ok body) =>
      have hfile : holdsFile s directory r = true := by simp [holdsFile, hheld]
      rw [taking_cons_of_text hheld, List.filter_cons_of_pos hfile]
      dsimp only
      rw [ih (t.set r body) hfront]
      obtain ⟨t', _ | roles⟩ := ((overrideEach directory
        ((t.set r body).taking s directory front) rest : StateM σ _).run s).1
      · rfl
      · rfl
    | some (.error cause) => exact absurd hheld (hr cause)

/-- Without a file that cannot be read, every role is done with. -/
theorem run_overrideEach_of_readable (t : TemplateSet)
    (hread : ∀ r ∈ roles, IsReadable s directory r) :
    ((overrideEach directory t roles : StateM σ _).run s).1 =
      (t.taking s directory roles, .ok (roles.filter (holdsFile s directory))) := by
  have hrun := run_overrideEach_append [] t hread
  rw [List.append_nil] at hrun
  rw [hrun]
  show (_, Except.ok (_ ++ [])) = _
  rw [List.append_nil]
  rfl

/-- The first file that cannot be read ends the taking. -/
theorem run_overrideEach_of_unreadable {cause : FileError} (back : List Role) (t : TemplateSet)
    (hread : ∀ q ∈ front, IsReadable s directory q)
    (hr : held s directory r = some (.error cause)) :
    ((overrideEach directory t (front ++ r :: back) : StateM σ _).run s).1 =
      (t.taking s directory front, .error (.unreadable (under directory r.file) cause)) := by
  rw [run_overrideEach_append _ t hread, run_overrideEach_cons, hr]
  rfl

theorem run_overrideFrom (directory : String) (t : TemplateSet) (s : σ) :
    (overrideFrom directory t : StateM σ _).run s =
      (if ((FileAccess.isPresent directory : StateM σ _).run s).1 = true then
        ((overrideEach directory t Role.all : StateM σ _).run s).1
      else (t, .error (.notFound directory)), s) := by
  refine Prod.ext ?_ (looks_overrideFrom directory t s)
  rw [overrideFrom, (Undisturbed.isPresent directory).run_bind]
  split
  · rfl
  · rfl

/-- Taking templates from a directory comes to exactly one of the outcomes, and leaves the
    files as they are. -/
theorem overrides_iff (s : σ) (directory : String) (t : TemplateSet)
    (x : TemplateSet × Except TemplateError (List Role)) :
    Overrides s directory t x ↔ (overrideFrom directory t : StateM σ _).run s = (x, s) := by
  rw [run_overrideFrom, Prod.mk.injEq, and_iff_left rfl]
  constructor
  · intro h
    cases h with
    | absent habsent => rw [if_neg (by simp [habsent])]
    | complete hpresent hread htakes =>
      rw [if_pos hpresent, run_overrideEach_of_readable t hread]
      have htexts := eq_of_find? fun r => htakes.find?_eq hread (Role.mem_all r)
      rw [htexts]
    | @stopped t' front back r cause hpresent hall hread hr htakes hkept =>
      rw [if_pos hpresent, hall, run_overrideEach_of_unreadable back t hread hr]
      have htexts : t' = t.taking s directory front := by
        refine eq_of_find? fun q => ?_
        by_cases hq : q ∈ front
        · exact htakes.find?_eq hread hq
        · -- The roles that are not in front are the one that stops the taking and the later ones.
          have hmem : q ∈ front ++ r :: back := hall ▸ Role.mem_all q
          rw [find?_taking_of_not_mem hq]
          exact hkept q ((List.mem_append.1 hmem).resolve_left hq)
      rw [htexts]
  · rintro rfl
    split
    · next hpresent =>
      rcases readable_or_first s directory Role.all with
        hread | ⟨front, r, back, cause, hall, hread, hr⟩
      · rw [run_overrideEach_of_readable t hread]
        exact .complete hpresent hread (takes_taking s directory Role.all t)
      · rw [hall, run_overrideEach_of_unreadable back t hread hr]
        refine .stopped hpresent hall hread hr (takes_taking s directory front t) fun q hq => ?_
        -- No role is listed twice, so what is still to come is not in front.
        have hnodup : (front ++ r :: back).Nodup := hall ▸ Role.nodup_all
        exact find?_taking_of_not_mem fun hfront =>
          (List.nodup_append.1 hnodup).2.2 q hfront q hq rfl
    · next habsent => exact .absent (Bool.eq_false_iff.2 habsent)

/-- A directory with a text for the first role, a file for another that is no text, and a text
    for a third one behind it. -/
def mixedDirectory : FileSystem where
  nodes := [(["work"], .directory), (["work", "t"], .directory),
    (["work", "t", Role.assertClass.file], .file (.text "frame")),
    (["work", "t", Role.has.file], .file (.binary [255])),
    (["work", "t", Role.is.file], .file (.text "flag"))]
  workingDirectory := ["work"]

/-- The first role gets its text; the one whose file is no text ends the taking. -/
theorem overrideFrom_mixedDirectory :
    (overrideFrom "t" default : StateM FileSystem _).run mixedDirectory =
      ((default.set .assertClass "frame", .error (.unreadable ("t/" ++ Role.has.file) .notText)),
        mixedDirectory) := by
  have hfirst : held mixedDirectory "t" .assertClass = some (.ok "frame") := by decide +kernel
  have hsecond : held mixedDirectory "t" .hierarchicalAssertClass = none := by decide +kernel
  have hthird : held mixedDirectory "t" .abstractAssertClass = none := by decide +kernel
  have hhas : held mixedDirectory "t" .has = some (.error .notText) := by decide +kernel
  refine (overrides_iff mixedDirectory "t" default _).1 ?_
  have hall : Role.all =
      [.assertClass, .hierarchicalAssertClass, .abstractAssertClass] ++ .has :: _ := rfl
  refine .stopped (by decide +kernel) hall ?_ hhas ⟨?_, ?_⟩ ?_
  · simp [IsReadable, hfirst, hsecond, hthird]
  · simp [hfirst, hsecond, hthird]
  · simp [hfirst, hsecond, hthird]
  · intro q hq
    rw [find?_set, if_neg]
    rintro rfl
    exact absurd hq (by decide)

end
end TemplateSet
end AssertionWriter
