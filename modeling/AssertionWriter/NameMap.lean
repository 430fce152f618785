/-
  AssertionWriter.NameMap

  Finite maps with names as keys, kept in ascending order of the keys. The order is that
  of the code points of the names.
-/
import AssertionWriter.Entries

namespace AssertionWriter

/-- A map from names, each of which occurs once. -/
structure NameMap (α : Type) where
  entries : List (String × α)
  ascending : entries.Pairwise (·.1 < ·.1)

namespace NameMap
variable {α : Type}

/-- Puts `v` under `k` into entries in ascending order, in the place of what stands there. -/
def insertEntry (k : String) (v : α) : List (String × α) → List (String × α)
  | [] => [(k, v)]
  | e :: es =>
    if k < e.1 then (k, v) :: e :: es
    else if k = e.1 then (k, v) :: es
    else e :: insertEntry k v es

theorem mem_insertEntry {k : String} {v : α} {es : List (String × α)} {x : String × α}
    (h : x ∈ insertEntry k v es) : x = (k, v) ∨ x ∈ es := by
  induction es with
  | nil => simpa [insertEntry] using h
  | cons e es ih =>
    simp only [insertEntry] at h
    split at h
    · simpa using h
    · split at h
      · exact (List.mem_cons.1 h).imp_right (List.mem_cons_of_mem _)
      · rcases List.mem_cons.1 h with rfl | h
        · simp
        · exact (ih h).imp_right (List.mem_cons_of_mem _)

theorem lt_of_not_lt_of_ne {a b : String} (h : ¬a < b) (hne : a ≠ b) : b < a := by
  exact Decidable.byContradiction fun h' =>
    hne (String.le_antisymm (String.not_lt.1 h') (String.not_lt.1 h))

theorem pairwise_insertEntry (k : String) (v : α) {es : List (String × α)}
    (h : es.Pairwise (·.1 < ·.1)) : (insertEntry k v es).Pairwise (·.1 < ·.1) := by
  induction es with
  | nil => simp [insertEntry]
  | cons e es ih =>
    obtain ⟨he, hes⟩ := List.pairwise_cons.1 h
    simp only [insertEntry]
    split
    · next hk =>
      -- `k` goes in front of all keys.
      refine List.pairwise_cons.2 ⟨fun x hx => ?_, h⟩
      rcases List.mem_cons.1 hx with rfl | hx
      · exact hk
      · exact String.lt_trans hk (he x hx)
    · next hk =>
      split
      · next heq =>
        -- The key stays, and only its value changes.
        exact List.pairwise_cons.2 ⟨fun x hx => heq ▸ he x hx, hes⟩
      · next hne =>
        -- `k` goes somewhere behind `e`, which is lower.
        refine List.pairwise_cons.2 ⟨fun x hx => ?_, ih hes⟩
        rcases mem_insertEntry hx with rfl | hx
        · exact lt_of_not_lt_of_ne hk hne
        · exact he x hx

/-! ## Operations -/

/-- The map without entries. -/
def empty : NameMap α := ⟨[], List.Pairwise.nil⟩

instance : Inhabited (NameMap α) := ⟨empty⟩

/-- The value under a name. -/
def get? (m : NameMap α) (k : String) : Option α := m.entries.lookup k

/-- Whether there is a value under a name. -/
def contains (m : NameMap α) (k : String) : Bool := (m.get? k).isSome

/-- Puts `v` under `k`, in the place of what stands there. -/
def insert (m : NameMap α) (k : String) (v : α) : NameMap α :=
  ⟨insertEntry k v m.entries, pairwise_insertEntry k v m.ascending⟩

/-- Puts `v` under `k` unless something stands there. -/
def insertNew (m : NameMap α) (k : String) (v : α) : NameMap α :=
  if m.contains k then m else m.insert k v

/-- Adds entries one after the other; what stands under a name stays. -/
def addNew (m : NameMap α) (entries : List (String × α)) : NameMap α :=
  entries.foldl (fun m e => m.insertNew e.1 e.2) m

/-- The names, in ascending order. -/
def keys (m : NameMap α) : List String := m.entries.map (·.1)

/-- The values, in ascending order of their names. -/
def values (m : NameMap α) : List α := m.entries.map (·.2)

/-- The map of a list of entries; of two under one name the last counts. -/
def ofList (entries : List (String × α)) : NameMap α :=
  entries.foldl (fun m e => m.insert e.1 e.2) empty

theorem addNew_append (m : NameMap α) (es fs : List (String × α)) :
    m.addNew (es ++ fs) = (m.addNew es).addNew fs := by
  rw [addNew, List.foldl_append]
  rfl

/-! ## Entries -/

theorem mem_entries_addNew {m : NameMap α} {es : List (String × α)} {e : String × α}
    (h : e ∈ (m.addNew es).entries) : e ∈ m.entries ∨ e ∈ es := by
  induction es generalizing m with
  | nil => exact .inl h
  | cons f fs ih =>
    rcases ih (m := m.insertNew f.1 f.2) h with h | h
    · rw [insertNew] at h
      split at h
      · exact .inl h
      · rcases mem_insertEntry h with rfl | h
        · exact .inr (List.mem_cons_self ..)
        · exact .inl h
    · exact .inr (List.mem_cons_of_mem _ h)

theorem mem_entries_ofList {es : List (String × α)} {e : String × α}
    (h : e ∈ (ofList es).entries) : e ∈ es := by
  refine List.foldlRecOn (motive := fun m : NameMap α => e ∈ m.entries → e ∈ es) es _ ?_ ?_ h
  · exact fun he => absurd he List.not_mem_nil
  · intro m hm f hf he
    rcases mem_insertEntry he with rfl | he
    · exact hf
    · exact hm he

theorem pairwise_keys (m : NameMap α) : m.keys.Pairwise (· < ·) := List.pairwise_map.2 m.ascending

/-- No name occurs twice. -/
theorem nodup_keys (m : NameMap α) : m.keys.Nodup := by
  refine m.pairwise_keys.imp fun hlt heq => ?_
  rw [heq] at hlt
  exact String.lt_irrefl _ hlt

theorem mem_keys_iff {m : NameMap α} {k : String} : k ∈ m.keys ↔ m.contains k = true := by
  rw [contains, get?, List.lookup_isSome_iff, keys, List.mem_map]
  simp only [beq_iff_eq, @eq_comm _ k]

/-! ## Looking up -/

theorem lookup_insertEntry (k : String) (v : α) (es : List (String × α)) (k' : String) :
    (insertEntry k v es).lookup k' = if k' = k then some v else es.lookup k' := by
  induction es with
  | nil => rw [insertEntry, lookup_cons]
  | cons e es ih =>
    simp only [insertEntry]
    split
    · rw [lookup_cons]
    · split
      · next heq => by_cases h : k' = k <;> simp [lookup_cons, h, ← heq]
      · next hne =>
        rw [lookup_cons, lookup_cons, ih]
        by_cases h : k' = k
        · subst h
          simp [hne]
        · simp [h]

@[simp] theorem get?_empty (k : String) : (empty : NameMap α).get? k = none := rfl

/-- After an insertion the new value stands under its name, and all others are as before. -/
theorem get?_insert (m : NameMap α) (k : String) (v : α) (k' : String) :
    (m.insert k v).get? k' = if k' = k then some v else m.get? k' :=
  lookup_insertEntry k v m.entries k'

theorem get?_insertNew (m : NameMap α) (k : String) (v : α) (k' : String) :
    (m.insertNew k v).get? k' = (m.get? k').or (if k' = k then some v else none) := by
  unfold insertNew contains
  split
  · next h =>
    -- Something stands under `k`, and stays.
    obtain ⟨w, hw⟩ := Option.isSome_iff_exists.1 h
    by_cases hk : k' = k
    · simp [hk, hw]
    · simp [hk]
  · next h =>
    rw [get?_insert]
    by_cases hk : k' = k
    · have : m.get? k = none := by simpa using h
      simp [hk, this]
    · simp [hk]

/-- Entries added behind one another: the first under a name counts. -/
theorem get?_addNew (m : NameMap α) (entries : List (String × α)) (k : String) :
    (m.addNew entries).get? k = (m.get? k).or (entries.lookup k) := by
  induction entries generalizing m with
  | nil => simp [addNew]
  | cons e es ih =>
    have : (m.addNew (e :: es)).get? k = ((m.insertNew e.1 e.2).addNew es).get? k := rfl
    rw [this, ih, get?_insertNew, lookup_cons, Option.or_assoc]
    by_cases h : k = e.1 <;> simp [h]

end NameMap
end AssertionWriter
