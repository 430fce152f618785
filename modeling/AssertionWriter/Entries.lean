/-
  AssertionWriter.Entries

  Lists of entries under keys: looking up a key, and putting a value under one. An entry
  that is replaced keeps its place, and a new one goes to the end, so the list is in the
  order in which the keys came.
-/

namespace AssertionWriter
variable {α β : Type}

/-! ## Looking up -/

/-- The first entry decides, if its key is the one that is looked up. -/
theorem lookup_cons [BEq α] [LawfulBEq α] [DecidableEq α] (k : α) (e : α × β)
    (es : List (α × β)) : (e :: es).lookup k = if k = e.1 then some e.2 else es.lookup k := by
  obtain ⟨k', v⟩ := e
  by_cases h : k = k'
  · rw [h, List.lookup_cons_self, if_pos rfl]
  · have hne : (k == k') = false := by simpa using h
    rw [List.lookup_cons, hne, if_neg h]

/-- What is found is an entry. -/
theorem mem_of_lookup [BEq α] [LawfulBEq α] {es : List (α × β)} {k : α} {v : β}
    (h : es.lookup k = some v) : (k, v) ∈ es := by
  obtain ⟨before, behind, rfl, -⟩ := List.lookup_eq_some_iff.1 h
  exact List.mem_append_right _ (List.mem_cons_self ..)

/-- Where no key has two entries, every entry is found under its key. -/
theorem lookup_eq_some_iff_mem [BEq α] [LawfulBEq α] [DecidableEq α] {es : List (α × β)}
    (h : (es.map (·.1)).Nodup) {k : α} {v : β} : es.lookup k = some v ↔ (k, v) ∈ es := by
  induction es with
  | nil => simp
  | cons e es ih =>
    obtain ⟨he, hes⟩ := List.nodup_cons.1 h
    rw [lookup_cons, List.mem_cons, Prod.ext_iff]
    split
    · next heq =>
      subst heq
      have hnone : (e.1, v) ∉ es := fun hmem => he (List.mem_map.2 ⟨_, hmem, rfl⟩)
      simp [hnone, @eq_comm _ v]
    · next hne => simp [ih hes, hne]

/-- In entries that are made of a list, the first member with an entry under the key decides. -/
theorem lookup_filterMap {γ : Type} [BEq β] [LawfulBEq β] [DecidableEq β]
    (f : α → Option (β × γ)) (as : List α) (k : β) :
    (as.filterMap f).lookup k =
      as.findSome? fun a => (f a).bind fun e => if k = e.1 then some e.2 else none := by
  induction as with
  | nil => rfl
  | cons a as ih =>
    rw [List.filterMap_cons, List.findSome?_cons, ← ih]
    cases f a with
    | none => rfl
    | some e =>
      simp only [lookup_cons, Option.bind_some]
      by_cases h : k = e.1 <;> simp [h]

/-- In lists of entries behind one another, the first list with an entry under the key decides. -/
theorem lookup_flatMap {γ : Type} [BEq β] (f : α → List (β × γ)) (as : List α) (k : β) :
    (as.flatMap f).lookup k = as.findSome? fun a => (f a).lookup k := by
  induction as with
  | nil => rfl
  | cons a as ih =>
    rw [List.flatMap_cons, List.lookup_append, List.findSome?_cons, ih]
    cases (f a).lookup k <;> rfl

/-! ## Setting -/

variable [DecidableEq α]

/-- Puts `v` under `k`: in the place of what stands there, or at the end. -/
def setEntry (k : α) (v : β) : List (α × β) → List (α × β)
  | [] => [(k, v)]
  | e :: es => if e.1 = k then (k, v) :: es else e :: setEntry k v es

/-- The value stands under its key, and all others are as before. -/
theorem lookup_setEntry [BEq α] [LawfulBEq α] (k : α) (v : β) (es : List (α × β)) (k' : α) :
    (setEntry k v es).lookup k' = if k' = k then some v else es.lookup k' := by
  induction es with
  | nil => rw [setEntry, lookup_cons]
  | cons e es ih =>
    simp only [setEntry]
    split
    · next he =>
      -- The entry gives up its place.
      rw [lookup_cons, lookup_cons, he]
      by_cases hk : k' = k <;> simp [hk]
    · next hne =>
      rw [lookup_cons, lookup_cons, ih]
      by_cases hk : k' = k
      · subst hk
        simp [Ne.symm hne]
      · simp [hk]

theorem mem_keys_setEntry {k k' : α} {v : β} {es : List (α × β)} :
    k' ∈ (setEntry k v es).map (·.1) ↔ k' = k ∨ k' ∈ es.map (·.1) := by
  induction es with
  | nil => simp [setEntry]
  | cons e es ih =>
    simp only [setEntry]
    split
    · next he => simp [he]
    · simp only [List.map_cons, List.mem_cons, ih]
      exact or_left_comm

/-- Setting keeps the keys apart. -/
theorem nodup_keys_setEntry (k : α) (v : β) {es : List (α × β)}
    (h : (es.map (·.1)).Nodup) : ((setEntry k v es).map (·.1)).Nodup := by
  induction es with
  | nil => simp [setEntry]
  | cons e es ih =>
    obtain ⟨he, hes⟩ := List.nodup_cons.1 h
    simp only [setEntry]
    split
    · next heq => exact List.nodup_cons.2 ⟨by simpa [heq] using he, hes⟩
    · next hne =>
      exact List.nodup_cons.2 ⟨fun hmem => (mem_keys_setEntry.1 hmem).elim hne he, ih hes⟩

end AssertionWriter
