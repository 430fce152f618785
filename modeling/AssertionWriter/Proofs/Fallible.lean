/-
  AssertionWriter.Proofs.Fallible

  Computations that may fail, taken apart: what a sequence of steps, a change of the result
  or of the error, and a step for each item of a list give or fail with in terms of what the
  steps do.
-/

namespace AssertionWriter

variable {ε δ α β γ : Type}

/-- Results are compared as far as values and errors are. -/
instance decidableEqExcept [DecidableEq ε] [DecidableEq α] : DecidableEq (Except ε α)
  | .ok a, .ok b => decidable_of_iff (a = b) (Except.ok.injEq a b ▸ Iff.rfl)
  | .error a, .error b => decidable_of_iff (a = b) (Except.error.injEq a b ▸ Iff.rfl)
  | .ok _, .error _ => isFalse nofun
  | .error _, .ok _ => isFalse nofun

/-! ## Sequences -/

theorem bind_eq_ok_iff {x : Except ε α} {f : α → Except ε β} {b : β} :
    x >>= f = .ok b ↔ ∃ a, x = .ok a ∧ f a = .ok b := by
  cases x with
  | error e => simp [bind, Except.bind]
  | ok a => simp [bind, Except.bind]

theorem bind_eq_error_iff {x : Except ε α} {f : α → Except ε β} {e : ε} :
    x >>= f = .error e ↔ x = .error e ∨ ∃ a, x = .ok a ∧ f a = .error e := by
  cases x with
  | error e => simp [bind, Except.bind]
  | ok a => simp [bind, Except.bind]

theorem exists_bind {x : Except ε α} {f : α → Except ε β} (hx : ∃ a, x = .ok a)
    (hf : ∀ a, ∃ b, f a = .ok b) : ∃ b, x >>= f = .ok b := by
  obtain ⟨a, rfl⟩ := hx
  exact hf a

/-- What follows an action that may fail is settled by what it does behind an error and behind a
    result. -/
theorem bind_congr_except {m : Type → Type} [Bind m] {x : m (Except ε α)}
    {f g : Except ε α → m β} (herror : ∀ e, f (.error e) = g (.error e))
    (hok : ∀ a, f (.ok a) = g (.ok a)) : x >>= f = x >>= g := by
  refine bind_congr fun outcome => ?_
  cases outcome with
  | error e => exact herror e
  | ok a => exact hok a

/-! ## Changes of the result and of the error -/

theorem map_eq_ok_iff {x : Except ε α} {f : α → β} {b : β} :
    f <$> x = .ok b ↔ ∃ a, x = .ok a ∧ f a = b := by
  cases x with
  | error e => simp [Functor.map, Except.map]
  | ok a => simp [Functor.map, Except.map]

theorem map_eq_error_iff {x : Except ε α} {f : α → β} {e : ε} :
    x.map f = .error e ↔ x = .error e := by
  cases x with
  | error e => simp [Except.map]
  | ok a => simp [Except.map]

theorem mapError_eq_ok_iff {x : Except ε α} {f : ε → δ} {a : α} :
    x.mapError f = .ok a ↔ x = .ok a := by
  cases x with
  | error e => exact ⟨nofun, nofun⟩
  | ok a => exact ⟨fun h => congrArg _ (Except.ok.inj h), fun h => congrArg _ (Except.ok.inj h)⟩

theorem mapError_eq_error_iff {x : Except ε α} {f : ε → δ} {e : δ} :
    x.mapError f = .error e ↔ ∃ cause, x = .error cause ∧ f cause = e := by
  cases x with
  | error cause =>
    constructor
    · intro h
      exact ⟨cause, rfl, Except.error.inj h⟩
    · rintro ⟨_, h, rfl⟩
      exact congrArg _ (congrArg f (Except.error.inj h))
  | ok a => exact ⟨nofun, nofun⟩

/-! ## A step for each item -/

variable {f : α → Except ε β} {xs : List α} {ys : List β}

/-- The results for a list are those for its items, all of which are there. -/
theorem mapM_eq_ok_iff : xs.mapM f = .ok ys ↔ xs.map f = ys.map .ok := by
  induction xs generalizing ys with
  | nil =>
    cases ys with
    | nil => exact ⟨fun _ => rfl, fun _ => rfl⟩
    | cons y ys => exact ⟨fun h => absurd h (by rintro ⟨⟩), fun h => absurd h (by rintro ⟨⟩)⟩
  | cons x xs ih =>
    rw [List.mapM_cons, bind_eq_ok_iff, List.map_cons]
    constructor
    · rintro ⟨y, hy, h⟩
      obtain ⟨zs, hzs, h⟩ := bind_eq_ok_iff.1 h
      obtain rfl := Except.ok.inj h
      rw [hy, ih.1 hzs, List.map_cons]
    · intro h
      cases ys with
      | nil => cases h
      | cons y ys =>
        obtain ⟨hy, hys⟩ := List.cons.inj h
        exact ⟨y, hy, bind_eq_ok_iff.2 ⟨ys, ih.2 hys, rfl⟩⟩

/-- Whatever is given for a list is given for one of its items. -/
theorem mem_of_mapM (h : xs.mapM f = .ok ys) : ∀ y ∈ ys, ∃ x ∈ xs, f x = .ok y := by
  intro y hy
  have hmem : Except.ok y ∈ xs.map f := mapM_eq_ok_iff.1 h ▸ List.mem_map_of_mem hy
  exact List.mem_map.1 hmem

/-- For each item of a list something is given. -/
theorem exists_of_mem_of_mapM (h : xs.mapM f = .ok ys) : ∀ x ∈ xs, ∃ y ∈ ys, f x = .ok y := by
  intro x hx
  have hmem : f x ∈ ys.map .ok := mapM_eq_ok_iff.1 h ▸ List.mem_map_of_mem hx
  obtain ⟨y, hy, heq⟩ := List.mem_map.1 hmem
  exact ⟨y, hy, heq.symm⟩

/-- What the results have in common with the items they come from. -/
theorem map_eq_of_mapM {g : α → γ} {k : β → γ} (hf : ∀ x ∈ xs, ∀ y, f x = .ok y → k y = g x)
    (h : xs.mapM f = .ok ys) : ys.map k = xs.map g := by
  induction xs generalizing ys with
  | nil =>
    obtain rfl := Except.ok.inj h
    rfl
  | cons x xs ih =>
    rw [List.mapM_cons, bind_eq_ok_iff] at h
    obtain ⟨y, hy, h⟩ := h
    obtain ⟨zs, hzs, h⟩ := bind_eq_ok_iff.1 h
    obtain rfl := Except.ok.inj h
    rw [List.map_cons, List.map_cons, hf x (by simp) y hy,
      ih (fun z hz => hf z (List.mem_cons_of_mem _ hz)) hzs]

/-- A list fails with what the first of its items that fails does. -/
theorem mapM_eq_error_iff {e : ε} : xs.mapM f = .error e ↔
    ∃ front x back, xs = front ++ x :: back ∧ (∀ y ∈ front, ∃ z, f y = .ok z) ∧
      f x = .error e := by
  induction xs with
  | nil => exact ⟨nofun, fun ⟨front, x, back, h, _⟩ => absurd h.symm (by simp)⟩
  | cons x xs ih =>
    rw [List.mapM_cons, bind_eq_error_iff]
    constructor
    · rintro (h | ⟨y, hy, h⟩)
      · exact ⟨[], x, xs, rfl, List.forall_mem_nil _, h⟩
      · -- The first item succeeds, so it is one of those in front.
        rcases bind_eq_error_iff.1 h with h | ⟨ys, -, h⟩
        · obtain ⟨front, z, back, rfl, hfront, hz⟩ := ih.1 h
          exact ⟨x :: front, z, back, rfl, List.forall_mem_cons.2 ⟨⟨y, hy⟩, hfront⟩, hz⟩
        · cases h
    · rintro ⟨_ | ⟨y, front⟩, z, back, hxs, hfront, hz⟩
      · obtain ⟨rfl, rfl⟩ := List.cons.inj hxs
        exact .inl hz
      · obtain ⟨rfl, rfl⟩ := List.cons.inj hxs
        obtain ⟨⟨w, hw⟩, hfront⟩ := List.forall_mem_cons.1 hfront
        exact .inr ⟨w, hw, bind_eq_error_iff.2 (.inl (ih.2 ⟨front, z, back, rfl, hfront, hz⟩))⟩

/-- What fails for a list fails for one of its items. -/
theorem exists_of_mapM_eq_error {e : ε} (h : xs.mapM f = .error e) : ∃ x ∈ xs, f x = .error e := by
  obtain ⟨front, x, back, rfl, -, hx⟩ := mapM_eq_error_iff.1 h
  exact ⟨x, by simp, hx⟩

/-- What succeeds for each item of a list succeeds for the list. -/
theorem exists_mapM_of_forall (h : ∀ x ∈ xs, ∃ y, f x = .ok y) : ∃ ys, xs.mapM f = .ok ys := by
  induction xs with
  | nil => exact ⟨[], rfl⟩
  | cons x xs ih =>
    have htail := ih fun z hz => h z (List.mem_cons_of_mem _ hz)
    rw [List.mapM_cons]
    exact exists_bind (h x (List.mem_cons_self ..)) fun _ => exists_bind htail fun _ => ⟨_, rfl⟩

theorem exists_mapM {P : β → Prop} (h : ∀ x ∈ xs, ∃ y, f x = .ok y ∧ P y) :
    ∃ ys, xs.mapM f = .ok ys ∧ ∀ y ∈ ys, P y := by
  obtain ⟨ys, hys⟩ := exists_mapM_of_forall fun x hx => (h x hx).imp fun _ hy => hy.1
  refine ⟨ys, hys, fun y hy => ?_⟩
  obtain ⟨x, hx, hxy⟩ := mem_of_mapM hys y hy
  obtain ⟨z, hxz, hz⟩ := h x hx
  exact Except.ok.inj (hxz.symm.trans hxy) ▸ hz

end AssertionWriter
