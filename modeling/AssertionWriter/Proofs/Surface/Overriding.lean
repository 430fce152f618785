/-
  AssertionWriter.Proofs.Surface.Overriding

  Which of several declarations of an accessor a surface takes. It is the first in the order
  in which the hierarchy is walked, nearest types first, and this is the most derived one
  unless the walk comes to a type before it comes to one below it. That cannot be where all
  ways from the subject to a type have one length, as in a single line of classes; but an
  interface that is implemented both directly and through another one is found too soon.
-/
import AssertionWriter.Proofs.Catalog.Supertypes
import AssertionWriter.Proofs.Surface.Accessors

namespace AssertionWriter

namespace Catalog

/-- The type is another one's subtype. -/
def IsBelow (c : Catalog) (n m : QualifiedName) : Prop := n ≠ m ∧ c.isSubtypeOf n m = true

/-- All ways from `n` up to a type have the same length. -/
def HasLevels (c : Catalog) (n : QualifiedName) : Prop :=
  ∀ m j k, c.Climbs n j m → c.Climbs n k m → j = k

variable {c : Catalog} {n m : QualifiedName}

/-- A lineage is in the order of the walk, the type itself first. -/
theorem nearestFirst_lineage :
    (c.lineage n).Pairwise fun d e => c.NotFarther n d.name e.name := by
  have hnames : (n :: c.supertypeNames n).Pairwise (c.NotFarther n) := by
    refine List.pairwise_cons.2 ⟨fun m hm => ?_, nearestFirst_supertypeNames⟩
    obtain ⟨k, hk⟩ := exists_climbs_iff.2 (mem_supertypeNames_iff.1 hm).2
    obtain ⟨j, -, hj⟩ := hk.exists_isDistance
    exact ⟨0, j, ⟨.start, fun i _ => Nat.zero_le i⟩, hj, Nat.zero_le j⟩
  refine hnames.filterMap c.find? fun a b hab d hd e he => ?_
  rw [name_of_find? hd, name_of_find? he]
  exact hab

/-- On levels a type is nearer than the types above it. -/
theorem HasLevels.not_isBelow (h : c.HasLevels n) {a b : QualifiedName}
    (hab : c.NotFarther n a b) : ¬c.IsBelow b a := by
  rintro ⟨hne, hsub⟩
  obtain ⟨j, k, ha, hb, hjk⟩ := hab
  obtain ⟨l, hl⟩ := exists_climbs_iff.2 (isSubtypeOf_iff.1 hsub)
  have hlen : j = k + l := h a j (k + l) ha.climbs (hb.climbs.trans hl)
  have hzero : l = 0 := by omega
  subst hzero
  cases hl
  exact hne rfl

end Catalog

namespace Surface

/-! ## Declarations of one accessor -/

/-- The type declares an accessor of the property. -/
def Declares (admission : Admission) (subject owner : TypeDecl) (k : String) : Prop :=
  ∃ m ∈ owner.methods, Offers admission subject owner k m

/-- The accessor that the surface has of the property is that of a method of the owner. -/
def IsTakenFrom (s : Surface) (c : Catalog) (admission : Admission) (subject : TypeDecl)
    (owners : List TypeDecl) (k : String) (owner : TypeDecl) : Prop :=
  ∃ m type, IsNearest admission subject owners k owner m ∧ m.returnType = some type ∧
    s.accessors.get? k =
      some { name := k, member := m.name, type, kind := .classify c m.name .accessor type,
             origin := .accessor m.failures }

/-- No type below the owner declares an accessor of the property. -/
def IsMostDerived (c : Catalog) (admission : Admission) (subject : TypeDecl)
    (owners : List TypeDecl) (k : String) (owner : TypeDecl) : Prop :=
  ∀ o ∈ owners, c.IsBelow o.name owner.name → ¬Declares admission subject o k

/-- Of the types that declare an accessor of the property, the first stands in front of one that is
    below it. -/
def IsInverted (c : Catalog) (admission : Admission) (subject : TypeDecl)
    (owners : List TypeDecl) (k : String) : Prop :=
  ∃ nearer owner farther lower, owners = nearer ++ owner :: farther ∧
    (∀ o ∈ nearer, ¬Declares admission subject o k) ∧ Declares admission subject owner k ∧
    lower ∈ farther ∧ c.IsBelow lower.name owner.name ∧ Declares admission subject lower k

variable {c : Catalog} {admission : Admission} {subject owner : TypeDecl} {owners : List TypeDecl}
  {k : String}

/-- There is only one place in a list where a property holds for the first time. -/
theorem eq_of_first {α : Type} {P : α → Prop} {before before' behind behind' : List α} {a a' : α}
    (h : before ++ a :: behind = before' ++ a' :: behind') (hbefore : ∀ x ∈ before, ¬P x)
    (ha : P a) (hbefore' : ∀ x ∈ before', ¬P x) (ha' : P a') : a = a' ∧ behind = behind' := by
  rcases List.append_eq_append_iff.1 h with ⟨inner, rfl, hrest⟩ | ⟨inner, rfl, hrest⟩
  · cases inner with
    | nil => exact List.cons.inj hrest
    | cons x inner =>
      obtain ⟨rfl, -⟩ := List.cons.inj hrest
      exact absurd ha (hbefore' a (by simp))
  · cases inner with
    | nil => exact (List.cons.inj hrest).imp Eq.symm Eq.symm
    | cons x inner =>
      obtain ⟨rfl, -⟩ := List.cons.inj hrest
      exact absurd ha' (hbefore a' (by simp))

/-- The nearest declaration is the most derived one unless the order is inverted. -/
theorem isMostDerived_iff {m : MethodDecl} (h : IsNearest admission subject owners k owner m) :
    IsMostDerived c admission subject owners k owner ↔
      ¬IsInverted c admission subject owners k := by
  obtain ⟨hoffers, ⟨before, behind, hmethods, -⟩, nearer, farther, howners, hnearer⟩ := h
  have howner : Declares admission subject owner k := ⟨m, by simp [hmethods], hoffers⟩
  have hfirst : ∀ o ∈ nearer, ¬Declares admission subject o k := by
    rintro o ho ⟨m', hm', hoffers'⟩
    exact hnearer o ho m' hm' hoffers'
  constructor
  · rintro hderived ⟨nearer', owner', farther', lower, howners', hfirst', howner', hlower, hbelow,
      hdeclares⟩
    obtain ⟨rfl, rfl⟩ := eq_of_first (howners.symm.trans howners') hfirst howner hfirst' howner'
    exact hderived lower (by simp [howners, hlower]) hbelow hdeclares
  · intro hnot lower hmem hbelow hdeclares
    rw [howners, List.mem_append, List.mem_cons] at hmem
    -- In front of the owner nothing is declared, and the owner is not below itself.
    rcases hmem with hmem | rfl | hmem
    · exact hfirst lower hmem hdeclares
    · exact hbelow.1 rfl
    · exact hnot ⟨nearer, owner, farther, lower, howners, hfirst, howner, hmem, hbelow, hdeclares⟩

/-- On levels no type stands in front of one below it. -/
theorem not_isInverted_of_hasLevels {n : QualifiedName} (h : c.HasLevels n) :
    ¬IsInverted c admission subject (c.lineage n) k := by
  rintro ⟨nearer, owner, farther, lower, howners, -, -, hlower, hbelow, -⟩
  have hsorted := Catalog.nearestFirst_lineage (c := c) (n := n)
  rw [howners, List.pairwise_append, List.pairwise_cons] at hsorted
  exact h.not_isBelow (hsorted.2.1.1 lower hlower) hbelow

/-! ## The accessors of a surface -/

variable {policy : DescriptionPolicy}

/-- Each accessor is taken from some type. This is the most derived one that declares the accessor
    exactly if the order is not inverted, and so wherever the hierarchy has levels. -/
theorem isMostDerived_iff_of_describe {n : QualifiedName} {s : Surface}
    (h : describe c policy n = .ok s) :
    ∃ d, c.find? n = some d ∧ (∀ k ∈ s.accessors.keys,
      (∃ owner, s.IsTakenFrom c policy.admission d (c.lineage n) k owner) ∧
      ∀ owner, s.IsTakenFrom c policy.admission d (c.lineage n) k owner →
        (IsMostDerived c policy.admission d (c.lineage n) k owner ↔
          ¬IsInverted c policy.admission d (c.lineage n) k)) ∧
      (c.HasLevels n → ∀ k, ¬IsInverted c policy.admission d (c.lineage n) k) := by
  obtain ⟨d, hd, -, rfl⟩ := describe_eq_ok_iff.1 h
  obtain rfl := Catalog.name_of_find? hd
  refine ⟨d, hd, fun k hk => ⟨?_, ?_⟩, fun hlevels k => not_isInverted_of_hasLevels hlevels⟩
  · obtain ⟨p, hp⟩ := Option.isSome_iff_exists.1 (NameMap.mem_keys_iff.1 hk)
    rw [accessors_eq hd] at hp
    obtain ⟨owner, m, type, hnearest, hreturn, rfl⟩ := get?_collected_eq_some_iff.1 hp
    exact ⟨owner, m, type, hnearest, hreturn, by rw [accessors_eq hd, hp]⟩
  · rintro owner ⟨m, type, hnearest, -⟩
    exact isMostDerived_iff hnearest

/-! ## An interface that is found too soon -/

/-- An interface with an accessor. -/
def shape : TypeDecl where
  name := ⟨"a", [], "Shape"⟩
  kind := .interface
  methods := [.reading "getId" .object]

/-- An interface that overrides the accessor with a narrower type. -/
def square : TypeDecl where
  name := ⟨"a", [], "Square"⟩
  kind := .interface
  interfaces := [.raw ⟨"a", [], "Shape"⟩]
  methods := [.reading "getId" (.raw ⟨"java.lang", [], "String"⟩)]

/-- A class that implements both of them. -/
def tile : TypeDecl where
  name := ⟨"a", [], "Tile"⟩
  interfaces := [.raw ⟨"a", [], "Shape"⟩, .raw ⟨"a", [], "Square"⟩]

/-- A catalog of the three. -/
def tiles : Catalog := .ofList [shape, square, tile]

theorem isAcyclic_tiles : tiles.IsAcyclic := by
  -- The interfaces rank above the class, and the one that is extended above the other.
  refine Catalog.isAcyclic_of_rank
    (fun n => if n = shape.name then 2 else if n = square.name then 1 else 0) ?_
  decide

theorem describe_tiles : describe tiles {} tile.name = .ok (ofDeclaration tiles {} tile) :=
  describe_eq_ok_iff.2 ⟨tile, by decide, rfl, rfl⟩

theorem lineage_tiles : tiles.lineage tile.name = [tile, shape, square] := by decide +kernel

/-- The method of an interface is an accessor of the class that implements it. -/
theorem offers_tiles {owner : TypeDecl} {type : JavaType} :
    Offers .byName tile owner "id" (.reading "getId" type) := by
  have hname : Naming.propertyOf "getId" = "id" := by decide
  have hgetter : ∀ boolean, Naming.isGetter "getId" boolean = true := by decide
  exact ⟨hname, type, rfl, rfl, rfl, rfl, fun h => absurd h.1 (by decide), .inl (hgetter _)⟩

theorem isNearest_tiles :
    IsNearest .byName tile (tiles.lineage tile.name) "id" shape (.reading "getId" .object) where
  offers := offers_tiles
  first := ⟨[], [], rfl, fun _ hm => absurd hm List.not_mem_nil⟩
  nearest := by
    refine ⟨[tile], [square], lineage_tiles, fun o ho m hm => ?_⟩
    rw [List.mem_singleton.1 ho] at hm
    exact absurd hm List.not_mem_nil

theorem isTakenFrom_tiles : (ofDeclaration tiles {} tile).IsTakenFrom tiles .byName tile
    (tiles.lineage tile.name) "id" shape := by
  have hfind : tiles.find? tile.name = some tile := by decide
  refine ⟨_, .object, isNearest_tiles, rfl, ?_⟩
  rw [accessors_eq hfind]
  exact get?_collected_eq_some_iff.2 ⟨shape, _, .object, isNearest_tiles, rfl, rfl⟩

theorem isBelow_tiles : tiles.IsBelow square.name shape.name := by
  have hextends : tiles.directSupertypes square.name = [.raw shape.name] := by decide
  refine ⟨by decide, Catalog.isSubtypeOf_iff.2 (.single ⟨.raw shape.name, ?_, rfl⟩)⟩
  rw [hextends]
  exact List.mem_singleton_self _

theorem isMostDerived_iff_of_describe_tiles :
    describe tiles {} tile.name = .ok (ofDeclaration tiles {} tile) ∧
      ∃ d, tiles.find? tile.name = some d ∧
        (∀ k ∈ (ofDeclaration tiles {} tile).accessors.keys,
          (∃ owner, (ofDeclaration tiles {} tile).IsTakenFrom tiles .byName d
            (tiles.lineage tile.name) k owner) ∧
          ∀ owner, (ofDeclaration tiles {} tile).IsTakenFrom tiles .byName d
            (tiles.lineage tile.name) k owner →
              (IsMostDerived tiles .byName d (tiles.lineage tile.name) k owner ↔
                ¬IsInverted tiles .byName d (tiles.lineage tile.name) k)) ∧
        (tiles.HasLevels tile.name →
          ∀ k, ¬IsInverted tiles .byName d (tiles.lineage tile.name) k) :=
  ⟨describe_tiles, isMostDerived_iff_of_describe describe_tiles⟩

/-- In a hierarchy without cycles an accessor may be taken from an interface although one below it
    overrides the accessor. -/
theorem exists_not_isMostDerived : ∃ (c : Catalog) (n : QualifiedName) (s : Surface)
    (d owner : TypeDecl) (k : String), c.IsAcyclic ∧ describe c {} n = .ok s ∧
      c.find? n = some d ∧ k ∈ s.accessors.keys ∧
      s.IsTakenFrom c .byName d (c.lineage n) k owner ∧
      ¬IsMostDerived c .byName d (c.lineage n) k owner := by
  refine ⟨tiles, tile.name, _, tile, shape, "id", isAcyclic_tiles, describe_tiles, by decide, ?_,
    isTakenFrom_tiles, fun h => ?_⟩
  · obtain ⟨m, type, -, -, hget⟩ := isTakenFrom_tiles
    rw [NameMap.mem_keys_iff, NameMap.contains, hget]
    rfl
  · exact h square (by simp [lineage_tiles]) isBelow_tiles ⟨_, List.mem_singleton_self _, offers_tiles⟩

end Surface
end AssertionWriter
