/-
  AssertionWriter.Proofs.Catalog.Superclasses

  The chain of the superclasses of a type. Each class in it is the one that the class in
  front of it extends, none comes twice, and it goes on as far as it can: to a type that the
  catalog lacks, that extends no named class, or whose superclass has been passed. No other
  list is of this kind, whatever the hierarchy looks like.
-/
import AssertionWriter.Proofs.Catalog.Supertypes
import Mathlib.Data.List.Perm.Subperm

namespace AssertionWriter.Catalog

variable {c : Catalog} {n m : QualifiedName} {seen chain : List QualifiedName}

/-! ## Steps -/

/-- The catalog declares that the class `n` extends the class `m`. -/
def ExtendsClass (c : Catalog) (n m : QualifiedName) : Prop :=
  ∃ d, c.find? n = some d ∧ ∃ t, d.superclass = some t ∧ t.name? = some m

/-- Why a chain does not go on behind the type `last`. -/
inductive StopsAt (c : Catalog) (passed : List QualifiedName) (last : QualifiedName) : Prop
  /-- The catalog lacks the type. -/
  | undeclared (h : c.find? last = none)
  /-- The type extends none, or one without a name. -/
  | unnamed (d : TypeDecl) (hd : c.find? last = some d)
      (h : ∀ t, d.superclass = some t → t.name? = none)
  /-- What it extends has been passed already. -/
  | repeated (m : QualifiedName) (h : c.ExtendsClass last m) (hm : m ∈ passed)

theorem superclassName?_eq_some_iff : c.superclassName? n = some m ↔ c.ExtendsClass n m := by
  rw [superclassName?, Option.bind_eq_some_iff]
  refine exists_congr fun d => and_congr_right fun _ => ?_
  rw [TypeDecl.superclassName?, Option.bind_eq_some_iff]

theorem ExtendsClass.unique (h : c.ExtendsClass n m) {m' : QualifiedName}
    (h' : c.ExtendsClass n m') : m = m' := by
  rw [← superclassName?_eq_some_iff] at h h'
  exact Option.some.inj (h.symm.trans h')

/-- A superclass is one of the direct supertypes. -/
theorem ExtendsClass.extends (h : c.ExtendsClass n m) : c.Extends n m := by
  obtain ⟨d, hd, t, ht, hname⟩ := h
  refine ⟨t, ?_, hname⟩
  rw [directSupertypes, hd, Option.elim_some, TypeDecl.directSupertypes, ht]
  exact List.mem_cons_self ..

/-- A chain stops just where no class is left that it has not passed. -/
theorem stopsAt_iff : c.StopsAt seen n ↔ ∀ m, c.ExtendsClass n m → m ∈ seen := by
  constructor
  · rintro (h | ⟨d, hd, h⟩ | ⟨m', h, hm⟩) m hext
    · obtain ⟨d, hd, -⟩ := hext
      rw [h] at hd
      cases hd
    · obtain ⟨d', hd', t, ht, hname⟩ := hext
      obtain rfl := Option.some.inj (hd.symm.trans hd')
      rw [h t ht] at hname
      cases hname
    · exact hext.unique h ▸ hm
  · intro h
    cases hd : c.find? n with
    | none => exact .undeclared hd
    | some d =>
      cases hname : d.superclassName? with
      | none => exact .unnamed d hd fun t ht => by rwa [TypeDecl.superclassName?, ht] at hname
      | some m =>
        have hext : c.ExtendsClass n m := ⟨d, hd, Option.bind_eq_some_iff.1 hname⟩
        exact .repeated m hext (h m hext)

/-! ## Chains -/

/-- The chain leads from the type `n` from class to class, to none twice and to none in `seen`, and
    it ends where it cannot go on. -/
structure IsSuperclassChain (c : Catalog) (seen : List QualifiedName) (n : QualifiedName)
    (chain : List QualifiedName) : Prop where
  linked : (n :: chain).IsChain c.ExtendsClass
  distinct : chain.Nodup
  fresh : ∀ m ∈ chain, m ∉ seen
  stops : ∀ last ∈ (n :: chain).getLast?, c.StopsAt (seen ++ chain) last

theorem isSuperclassChain_nil : c.IsSuperclassChain seen n [] ↔ c.StopsAt seen n := by
  constructor
  · intro h
    simpa using h.stops n rfl
  · intro h
    refine ⟨.singleton n, List.nodup_nil, List.forall_mem_nil _, fun last hlast => ?_⟩
    obtain rfl : n = last := Option.some.inj hlast
    rwa [List.append_nil]

/-- A chain goes on behind its first class as one for which that class has been passed. -/
theorem isSuperclassChain_cons : c.IsSuperclassChain seen n (m :: chain) ↔
    c.ExtendsClass n m ∧ m ∉ seen ∧ c.IsSuperclassChain (m :: seen) m chain := by
  have hlast : (n :: m :: chain).getLast? = (m :: chain).getLast? := List.getLast?_cons_cons
  have hpassed : ∀ last,
      c.StopsAt (seen ++ m :: chain) last ↔ c.StopsAt (m :: seen ++ chain) last := by
    intro last
    rw [stopsAt_iff, stopsAt_iff]
    refine forall₂_congr fun l _ => ?_
    simp only [List.mem_append, List.mem_cons, List.cons_append]
    exact or_left_comm
  constructor
  · intro h
    obtain ⟨hext, hlinked⟩ := List.isChain_cons_cons.1 h.linked
    obtain ⟨hm, hdistinct⟩ := List.nodup_cons.1 h.distinct
    obtain ⟨hfirst, hfresh⟩ := List.forall_mem_cons.1 h.fresh
    refine ⟨hext, hfirst, hlinked, hdistinct, fun l hl hseen => ?_, fun last hmem => ?_⟩
    · rcases List.mem_cons.1 hseen with rfl | hseen
      · exact hm hl
      · exact hfresh l hl hseen
    · exact (hpassed last).1 (h.stops last (hlast ▸ hmem))
  · rintro ⟨hext, hfirst, h⟩
    refine ⟨List.isChain_cons_cons.2 ⟨hext, h.linked⟩,
      List.nodup_cons.2 ⟨fun hm => h.fresh m hm (List.mem_cons_self ..), h.distinct⟩,
      List.forall_mem_cons.2 ⟨hfirst, fun l hl hseen => h.fresh l hl (List.mem_cons_of_mem _ hseen)⟩,
      fun last hmem => ?_⟩
    exact (hpassed last).2 (h.stops last (hlast ▸ hmem))

/-- There is one chain of this kind, and it is the one that is computed. -/
theorem isSuperclassChain_iff :
    c.IsSuperclassChain seen n chain ↔ chain = c.superclassesFrom seen n := by
  fun_induction c.superclassesFrom seen n generalizing chain with
  | case1 seen n hnone =>
    have hext : ∀ m, ¬c.ExtendsClass n m := by
      intro m h
      rw [← superclassName?_eq_some_iff, hnone] at h
      cases h
    cases chain with
    | nil =>
      have hstops : c.StopsAt seen n := stopsAt_iff.2 fun m h => absurd h (hext m)
      exact iff_of_true (isSuperclassChain_nil.2 hstops) rfl
    | cons m chain => exact iff_of_false (fun h => hext m (isSuperclassChain_cons.1 h).1) nofun
  | case2 seen n s hs hseen =>
    have hext : c.ExtendsClass n s := superclassName?_eq_some_iff.1 hs
    cases chain with
    | nil => exact iff_of_true (isSuperclassChain_nil.2 (.repeated s hext hseen)) rfl
    | cons m chain =>
      refine iff_of_false (fun h => ?_) nofun
      obtain ⟨hm, hnew, -⟩ := isSuperclassChain_cons.1 h
      exact hnew (hm.unique hext ▸ hseen)
  | case3 seen n s hs hseen _ ih =>
    have hext : c.ExtendsClass n s := superclassName?_eq_some_iff.1 hs
    cases chain with
    | nil =>
      -- A chain must not stop in front of a new class.
      exact iff_of_false (fun h => hseen (stopsAt_iff.1 (isSuperclassChain_nil.1 h) s hext)) nofun
    | cons m chain =>
      rw [isSuperclassChain_cons, List.cons_eq_cons]
      constructor
      · rintro ⟨hm, -, h⟩
        obtain rfl := hm.unique hext
        exact ⟨rfl, ih.1 h⟩
      · rintro ⟨rfl, h⟩
        exact ⟨hext, hseen, ih.2 h⟩

/-- Whatever has a superclass is declared, which is all of a chain but its last type. -/
theorem mem_names_of_isChain (h : (n :: chain).IsChain c.ExtendsClass) :
    ∀ m ∈ (n :: chain).dropLast, m ∈ c.names := by
  induction chain generalizing n with
  | nil => exact List.forall_mem_nil _
  | cons l chain ih =>
    obtain ⟨⟨d, hd, -⟩, hrest⟩ := List.isChain_cons_cons.1 h
    rw [List.dropLast_cons_cons, List.forall_mem_cons]
    exact ⟨List.mem_map.2 ⟨d, mem_of_find? hd, name_of_find? hd⟩, ih hrest⟩

namespace IsSuperclassChain

/-- A chain takes no more steps than there are declarations. -/
theorem length_le (h : c.IsSuperclassChain [n] n chain) : chain.length ≤ c.decls.length := by
  have hnew : n ∉ chain := fun hn => h.fresh n hn (List.mem_singleton_self n)
  have hnodup : (n :: chain).dropLast.Nodup :=
    (List.nodup_cons.2 ⟨hnew, h.distinct⟩).sublist (List.dropLast_sublist _)
  have hle := (List.subperm_of_subset hnodup (mem_names_of_isChain h.linked)).length_le
  rwa [List.length_dropLast, names, List.length_map] at hle

theorem transGen (h : c.IsSuperclassChain seen n chain) (hm : m ∈ chain) :
    Relation.TransGen c.Extends n m := by
  have hlinked : (n :: chain).IsChain (Relation.TransGen c.Extends) :=
    h.linked.imp fun _ _ hext => .single hext.extends
  exact (List.pairwise_cons.1 hlinked.pairwise).1 m hm

end IsSuperclassChain

/-! ## Superclasses -/

theorem isSuperclassChain_self (c : Catalog) (seen : List QualifiedName) (n : QualifiedName) :
    c.IsSuperclassChain seen n (c.superclassesFrom seen n) :=
  isSuperclassChain_iff.2 rfl

/-- Also where classes extend each other, no class is found among those that it extends. -/
theorem ne_of_mem_superclasses (h : m ∈ c.superclasses n) : m ≠ n := by
  rintro rfl
  exact (isSuperclassChain_self c [m] m).fresh m h (List.mem_singleton_self m)

/-- The superclasses of a type are the only chain that leads from it from class to class, to none
    twice, and on as long as there are new ones. It has no more members than there are
    declarations, and all of them are supertypes. -/
theorem isSuperclassChain_superclasses (c : Catalog) (n : QualifiedName) :
    (∀ chain, c.IsSuperclassChain [n] n chain ↔ chain = c.superclasses n) ∧
      (c.superclasses n).length ≤ c.decls.length ∧
      ∀ m ∈ c.superclasses n, m ∈ c.supertypeNames n := by
  have hchain : c.IsSuperclassChain [n] n (c.superclasses n) := isSuperclassChain_self c [n] n
  refine ⟨fun chain => isSuperclassChain_iff, hchain.length_le, fun m hm => ?_⟩
  exact mem_supertypeNames_iff.2 ⟨ne_of_mem_superclasses hm, (hchain.transGen hm).to_reflTransGen⟩

/-- Of two classes that extend each other each has one superclass. -/
example : (Catalog.ofList [
    { name := ⟨"a", [], "B"⟩, superclass := some (.raw ⟨"a", [], "C"⟩) },
    { name := ⟨"a", [], "C"⟩, superclass := some (.raw ⟨"a", [], "B"⟩) }]).superclasses
      ⟨"a", [], "B"⟩ = [⟨"a", [], "C"⟩] := by decide +kernel

end AssertionWriter.Catalog
