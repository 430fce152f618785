/-
  AssertionWriter.Proofs.AssertionClass.Imports

  The import lines of a source fit into the hole for them: what is imported has an inline
  name, whatever the text mentions.
-/
import AssertionWriter.Imports
import AssertionWriter.Proofs.Surface.Inline
import AssertionWriter.Proofs.Template.Rendering

namespace AssertionWriter
open Template Text

/-! ## Imported names -/

namespace NameMap

theorem mem_keys_insert {α : Type} {m : NameMap α} {k l : String} {v : α} :
    l ∈ (m.insert k v).keys ↔ l = k ∨ l ∈ m.keys := by
  rw [mem_keys_iff, mem_keys_iff, contains, contains, get?_insert]
  split
  · next heq => simp [heq]
  · next hne => simp [hne]

end NameMap

namespace Imports

/-- Imports of inline names. -/
def AllInline (i : Imports) : Prop := ∀ name ∈ i.toList, Inline name

variable {i : Imports}

theorem allInline_empty (package : String) : (empty package).AllInline :=
  fun _ h => absurd h List.not_mem_nil

theorem AllInline.add (h : i.AllInline) {name? : Option String}
    (hname : ∀ name ∈ name?, Inline name) : (i.add name?).2.AllInline := by
  cases name? with
  | none => exact h
  | some name =>
    intro n hn
    rcases NameMap.mem_keys_insert.1 hn with rfl | hn
    · exact hname n rfl
    · exact h n hn

theorem inline_of_mem_neededFor? {n : QualifiedName} (hn : n.IsInline) :
    ∀ name ∈ i.neededFor? n, Inline name := by
  intro name hname
  rw [neededFor?] at hname
  split at hname
  · exact absurd hname (by simp)
  · obtain rfl := Option.some.inj hname
    exact hn.outermost.qualified

theorem AllInline.addType (h : i.AllInline) {n : QualifiedName} (hn : n.IsInline) :
    (i.addType n).2.AllInline := h.add (inline_of_mem_neededFor? hn)

theorem eq_of_mem_needed? {name n : String} (h : n ∈ i.needed? name) : n = name := by
  obtain ⟨package, -, hneeded⟩ := Option.bind_eq_some_iff.1 h
  split at hneeded
  · exact absurd hneeded (by simp)
  · exact (Option.some.inj hneeded).symm

theorem AllInline.addName (h : i.AllInline) {name : String} (hname : Inline name) :
    (i.addName name).2.AllInline := h.add fun _ hn => eq_of_mem_needed? hn ▸ hname

theorem inline_of_mem_helpers {h : String × String} (hh : h ∈ helpers) : Inline h.2 := by
  have hall : (helpers.all fun e => decide (Inline e.2)) = true := by decide +kernel
  simpa using List.all_eq_true.1 hall h hh

/-- The names of the helper classes are inline, so it does not matter which the text uses. -/
theorem AllInline.addHelpers (h : i.AllInline) (text : String) : (i.addHelpers text).AllInline := by
  refine List.foldlRecOn (motive := AllInline) _ _ h ?_
  intro i hi e he
  exact hi.addName (inline_of_mem_helpers (List.mem_filter.1 he).1)

/-! ## What is imported -/

@[simp] theorem package_add (name? : Option String) : (i.add name?).2.package = i.package := by
  cases name? <;> rfl

theorem mem_toList_add {name? : Option String} {name : String} :
    name ∈ (i.add name?).2.toList ↔ name ∈ name? ∨ name ∈ i.toList := by
  cases name? with
  | none => simp [add]
  | some n =>
    show name ∈ (i.names.insert n ()).keys ↔ _
    rw [NameMap.mem_keys_insert, Option.mem_some_iff, @eq_comm _ n]
    rfl

theorem mem_toList_addName {name n : String} :
    n ∈ (i.addName name).2.toList ↔ n ∈ i.needed? name ∨ n ∈ i.toList := mem_toList_add

theorem package_addHelpers (text : String) : (i.addHelpers text).package = i.package := by
  refine List.foldlRecOn (motive := fun j : Imports => j.package = i.package) _ _ rfl ?_
  intro j hj h _
  rw [addName, package_add, hj]

/-- Whether a name is needed depends on the package alone. -/
theorem needed?_eq {j : Imports} (h : i.package = j.package) (name : String) :
    i.needed? name = j.needed? name := by
  rw [needed?, needed?, h]

/-- The helper classes that a text uses are imported as far as they are needed. -/
theorem mem_toList_addHelpers {text name : String} :
    name ∈ (i.addHelpers text).toList ↔
      name ∈ i.toList ∨ ∃ h ∈ helpers, mentions text h.1 = true ∧ name ∈ i.needed? h.2 := by
  have hfold : ∀ (hs : List (String × String)) (i : Imports),
      name ∈ (hs.foldl (fun i h => (i.addName h.2).2) i).toList ↔
        name ∈ i.toList ∨ ∃ h ∈ hs, name ∈ i.needed? h.2 := by
    intro hs
    induction hs with
    | nil => simp
    | cons h hs ih =>
      intro i
      have hneeded : ∀ n, (i.addName h.2).2.needed? n = i.needed? n :=
        needed?_eq (package_add _)
      rw [List.foldl_cons, ih, mem_toList_addName, or_comm (a := name ∈ i.needed? h.2), or_assoc]
      simp only [hneeded, List.mem_cons, exists_eq_or_imp]
  rw [addHelpers, hfold]
  simp only [List.mem_filter, and_assoc]

/-! ## Import lines -/

theorem AllInline.fits_render (h : i.AllInline) : Fits .imports i.render := by
  rw [render]
  split
  · exact ⟨rfl, rfl⟩
  · have hjoin : String.join (i.toList.map fun name => "import " ++ name ++ ";\n") ++ "\n" =
        String.join ((i.toList.map fun name => "import " ++ name ++ ";\n") ++ ["\n"]) := by
      simp
    have hend : ";\n" = ";" ++ "\n" := by decide
    rw [hjoin]
    refine Fits.lines fun s hs => ?_
    rcases List.mem_append.1 hs with hs | hs
    · obtain ⟨name, hname, rfl⟩ := List.mem_map.1 hs
      refine ⟨"import " ++ name ++ ";", ?_, ?_, ?_⟩
      · rw [hend, ← String.append_assoc]
      · exact (Inline.append (by decide) (h name hname)).append (by decide)
      · simp
    · rw [List.mem_singleton.1 hs]
      exact ⟨"", by decide, by decide, by decide⟩

end Imports
end AssertionWriter
