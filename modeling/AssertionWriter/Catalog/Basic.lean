/-
  AssertionWriter.Catalog.Basic

  A catalog: the declarations of types, at most one for each name, in the order in which
  their names came in. `insert` is described by what `find?` gives after it.
-/
import AssertionWriter.Catalog.Declaration

namespace AssertionWriter

/-- A collection of type declarations with different names. -/
structure Catalog where
  decls : List TypeDecl
  distinct : (decls.map (·.name)).Nodup

namespace Catalog

/-- The catalog without declarations. -/
def empty : Catalog := ⟨[], List.nodup_nil⟩

instance : Inhabited Catalog := ⟨empty⟩

/-- The declared names, in the order of the catalog. -/
def names (c : Catalog) : List QualifiedName := c.decls.map (·.name)

/-- The declaration of a type. -/
def find? (c : Catalog) (n : QualifiedName) : Option TypeDecl := c.decls.find? (·.name = n)

theorem name_of_find? {c : Catalog} {n : QualifiedName} {d : TypeDecl} (h : c.find? n = some d) :
    d.name = n := by
  simpa using List.find?_some h

theorem mem_of_find? {c : Catalog} {n : QualifiedName} {d : TypeDecl} (h : c.find? n = some d) :
    d ∈ c.decls :=
  List.mem_of_find?_eq_some h

/-- Puts `d` in the place of the declaration of its name, or at the end. -/
def insertDecl (d : TypeDecl) : List TypeDecl → List TypeDecl
  | [] => [d]
  | e :: es => if e.name = d.name then d :: es else e :: insertDecl d es

theorem mem_map_name_insertDecl {d : TypeDecl} {es : List TypeDecl} {n : QualifiedName} :
    n ∈ (insertDecl d es).map (·.name) ↔ n = d.name ∨ n ∈ es.map (·.name) := by
  induction es with
  | nil => simp [insertDecl]
  | cons e es ih =>
    simp only [insertDecl]
    split
    · next h => simp [h]
    · simp only [List.map_cons, List.mem_cons, ih]
      exact or_left_comm

theorem nodup_insertDecl (d : TypeDecl) {es : List TypeDecl} (h : (es.map (·.name)).Nodup) :
    ((insertDecl d es).map (·.name)).Nodup := by
  induction es with
  | nil => simp [insertDecl]
  | cons e es ih =>
    obtain ⟨he, hes⟩ := List.nodup_cons.1 h
    simp only [insertDecl]
    split
    · next heq => exact List.nodup_cons.2 ⟨by simpa [heq] using he, hes⟩
    · next hne =>
      refine List.nodup_cons.2 ⟨fun hmem => ?_, ih hes⟩
      exact (mem_map_name_insertDecl.1 hmem).elim hne he

/-- Adds a declaration. One of the same name gives up its place to it. -/
def insert (c : Catalog) (d : TypeDecl) : Catalog :=
  ⟨insertDecl d c.decls, nodup_insertDecl d c.distinct⟩

/-- The catalog of a list of declarations; of two with one name the last counts. -/
def ofList (decls : List TypeDecl) : Catalog := decls.foldl insert empty

theorem find?_insertDecl (d : TypeDecl) (es : List TypeDecl) (n : QualifiedName) :
    (insertDecl d es).find? (·.name = n) =
      if n = d.name then some d else es.find? (·.name = n) := by
  induction es with
  | nil => by_cases h : d.name = n <;> simp [insertDecl, h, eq_comm]
  | cons e es ih =>
    simp only [insertDecl]
    split
    · next heq => by_cases h : d.name = n <;> simp [h, heq, Ne.symm, eq_comm]
    · next hne =>
      by_cases h : e.name = n
      · have : ¬n = d.name := fun h' => hne (h.trans h')
        simp [h, this]
      · simp [h, ih]

/-- After an insertion the new declaration stands under its name, and all others are as before. -/
theorem find?_insert (c : Catalog) (d : TypeDecl) (n : QualifiedName) :
    (c.insert d).find? n = if n = d.name then some d else c.find? n :=
  find?_insertDecl d c.decls n

end Catalog
end AssertionWriter
