/-
  AssertionWriter.Proofs.Surface.Fields

  The fields of a surface, said without the maps that they are collected in. A field shows
  if it is open and no accessor gives its value; of several fields of one name that show,
  the one of the nearest class stands under the name. A nearer field that does not show
  does not hide a farther one.
-/
import Mathlib.Data.List.Basic
import AssertionWriter.Proofs.Catalog.Superclasses
import AssertionWriter.Proofs.Surface.Accessors

namespace AssertionWriter

/-! ## Classes that a class extends -/

namespace Catalog

/-- The type of a name and behind it the classes that it extends, nearest first, as far as the
    catalog declares them. -/
def ancestry (c : Catalog) (n : QualifiedName) : List TypeDecl :=
  (n :: c.superclasses n).filterMap c.find?

end Catalog

/-! ## Maps of entries -/

namespace NameMap
variable {α : Type}

/-- Of the entries under one name the last counts. -/
theorem get?_ofList (es : List (String × α)) (k : String) :
    (ofList es).get? k = es.reverse.lookup k := by
  have hfold : ∀ (es : List (String × α)) (m : NameMap α),
      (es.foldl (fun m e => m.insert e.1 e.2) m).get? k = (es.reverse.lookup k).or (m.get? k) := by
    intro es
    induction es with
    | nil => intro m; rfl
    | cons e es ih =>
      intro m
      rw [List.foldl_cons, ih, get?_insert, List.reverse_cons, List.lookup_append, lookup_cons,
        Option.or_assoc]
      split <;> rfl
  rw [ofList, hfold, get?_empty, Option.or_none]

/-- Since no name occurs twice, each entry is the one that its name leads to. -/
theorem get?_of_mem_entries {m : NameMap α} {e : String × α} (h : e ∈ m.entries) :
    m.get? e.1 = some e.2 :=
  (lookup_eq_some_iff_mem m.nodup_keys).2 h

end NameMap

namespace Surface

/-! ## Which fields show -/

/-- The accessor gives the value of a field of the name and the type: it has the same type, and is
    named like the accessor of the field or, for a boolean, like one of its predicates. -/
def Covers (a : Property) (name : String) (type : JavaType) : Prop :=
  a.type = type ∧ (a.member = Naming.getterOf name ∨
    type.isBoolean = true ∧ a.member ∈ Naming.predicatesOf name)

/-- The field shows on the surface of the subject: every instance has it, everyone can read it,
    or it is one of the subject's own and the policy asks for those that are hidden, and no
    accessor gives its value. -/
structure Shows (policy : DescriptionPolicy) (accessors : NameMap Property)
    (subject owner : TypeDecl) (f : FieldDecl) : Prop where
  isStatic : f.isStatic = false
  visibility : f.visibility = .toAll ∨ owner = subject ∧ policy.hiddenFields = true
  uncovered : ∀ a ∈ accessors.values, ¬Covers a f.name f.type

/-- The field has the name and shows, and no class in front of its own has such a field. Of several
    in one class it is the first, and of several of the subject itself the last. -/
structure IsNearestField (policy : DescriptionPolicy) (accessors : NameMap Property)
    (subject : TypeDecl) (owners : List TypeDecl) (name : String) (owner : TypeDecl)
    (f : FieldDecl) : Prop where
  named : f.name = name
  shows : Shows policy accessors subject owner f
  single : ∃ before behind, owner.fields = before ++ f :: behind ∧
    ∀ g ∈ (if owner = subject then behind else before), g.name = name →
      ¬Shows policy accessors subject owner g
  nearest : ∃ nearer farther, owners = nearer ++ owner :: farther ∧
    ∀ o ∈ nearer, ∀ g ∈ o.fields, g.name = name → ¬Shows policy accessors subject o g

/-- The map holds the fields of the owners that show: under the name of each of them the one that
    is nearest, and none of which an accessor gives the value. -/
structure CollectsFields (fields accessors : NameMap Property) (c : Catalog)
    (policy : DescriptionPolicy) (subject : TypeDecl) (owners : List TypeDecl) : Prop where
  keys : ∀ k, k ∈ fields.keys ↔ ∃ owner ∈ owners, ∃ f ∈ owner.fields,
    f.name = k ∧ Shows policy accessors subject owner f
  entries : ∀ k p, fields.get? k = some p ↔
    ∃ owner f, IsNearestField policy accessors subject owners k owner f ∧
      p = { name := k, member := k, type := f.type, kind := .classify c k .field f.type,
            origin := .field f.visibility }
  uncovered : ∀ p ∈ fields.values, ∀ a ∈ accessors.values, ¬Covers a p.member p.type

variable {c : Catalog} {policy : DescriptionPolicy} {accessors : NameMap Property}
  {subject owner : TypeDecl} {owners : List TypeDecl} {f : FieldDecl}

theorem isCovered_eq_false_iff :
    isCovered accessors f = false ↔ ∀ a ∈ accessors.values, ¬Covers a f.name f.type := by
  rw [isCovered, List.any_eq_false]
  refine forall₂_congr fun a _ => ?_
  simp [Covers]

/-- Whether a field of the owner shows, as it is computed: the hidden ones count for the subject
    alone. -/
def shows (policy : DescriptionPolicy) (accessors : NameMap Property) (subject owner : TypeDecl)
    (f : FieldDecl) : Bool :=
  !f.isStatic && (f.visibility.isPublic || decide (owner = subject) && policy.hiddenFields) &&
    !isCovered accessors f

theorem shows_eq_true_iff :
    shows policy accessors subject owner f = true ↔ Shows policy accessors subject owner f := by
  simp only [shows, Visibility.isPublic, Bool.and_eq_true, Bool.not_eq_true', Bool.or_eq_true,
    decide_eq_true_eq, isCovered_eq_false_iff]
  constructor
  · rintro ⟨⟨hstatic, hvisibility⟩, hcovered⟩
    exact ⟨hstatic, hvisibility, hcovered⟩
  · rintro ⟨hstatic, hvisibility, hcovered⟩
    exact ⟨⟨hstatic, hvisibility⟩, hcovered⟩

/-! ## The fields of one class -/

/-- The entries of the fields of a class that show. -/
def shown (c : Catalog) (policy : DescriptionPolicy) (accessors : NameMap Property)
    (subject owner : TypeDecl) : List (String × Property) :=
  (owner.fields.filter (shows policy accessors subject owner)).map fun f => (f.name, ofField c f)

theorem fieldsIn_self :
    fieldsIn c accessors policy.hiddenFields subject =
      shown c policy accessors subject subject := by
  have hshows : (fun f : FieldDecl => !f.isStatic &&
      (f.visibility.isPublic || policy.hiddenFields) && !isCovered accessors f) =
        shows policy accessors subject subject := by
    funext f
    simp [shows]
  rw [fieldsIn, hshows, shown]

theorem fieldsIn_of_ne (h : owner ≠ subject) :
    fieldsIn c accessors false owner = shown c policy accessors subject owner := by
  have hshows : (fun f : FieldDecl => !f.isStatic && (f.visibility.isPublic || false) &&
      !isCovered accessors f) = shows policy accessors subject owner := by
    funext f
    simp [shows, h]
  rw [fieldsIn, hshows, shown]

/-- What a class has under a name: the last of its fields if it is the subject, and else the first
    one. -/
def shown? (c : Catalog) (policy : DescriptionPolicy) (accessors : NameMap Property)
    (subject : TypeDecl) (k : String) (owner : TypeDecl) : Option Property :=
  if owner = subject then (shown c policy accessors subject owner).reverse.lookup k
  else (shown c policy accessors subject owner).lookup k

theorem lookup_map_filter (show? : FieldDecl → Bool) (fs : List FieldDecl) (k : String) :
    ((fs.filter show?).map fun f => (f.name, ofField c f)).lookup k =
      (fs.find? fun f => decide (f.name = k) && show? f).map (ofField c) := by
  induction fs with
  | nil => rfl
  | cons f fs ih =>
    rw [List.filter_cons, List.find?_cons]
    by_cases hf : show? f = true
    · rw [if_pos hf, List.map_cons, lookup_cons, ih]
      by_cases hk : k = f.name
      · simp [hk, hf]
      · simp [hk, Ne.symm hk]
    · simp [hf, ih]

theorem shown?_eq_some_iff {k : String} {p : Property} :
    shown? c policy accessors subject k owner = some p ↔
      ∃ f, f.name = k ∧ Shows policy accessors subject owner f ∧
        (∃ before behind, owner.fields = before ++ f :: behind ∧
          ∀ g ∈ (if owner = subject then behind else before), g.name = k →
            ¬Shows policy accessors subject owner g) ∧ p = ofField c f := by
  have hnone : ∀ g : FieldDecl,
      (!(decide (g.name = k) && shows policy accessors subject owner g)) = true ↔
        (g.name = k → ¬Shows policy accessors subject owner g) := by
    intro g
    rw [Bool.not_eq_true', ← Bool.not_eq_true, Bool.and_eq_true, decide_eq_true_eq,
      shows_eq_true_iff, not_and]
  rw [shown?]
  split
  · next howner =>
    -- Read from its end, the list has the last field of the name in front.
    rw [shown, ← List.map_reverse, ← List.filter_reverse, lookup_map_filter,
      Option.map_eq_some_iff]
    refine exists_congr fun f => ?_
    rw [List.find?_eq_some_iff_append, Bool.and_eq_true, decide_eq_true_eq, shows_eq_true_iff,
      and_assoc, and_assoc, @eq_comm _ p]
    refine and_congr_right fun _ => and_congr_right fun _ => and_congr_left fun _ => ?_
    simp only [hnone]
    constructor
    · rintro ⟨before, behind, hfields, hbefore⟩
      refine ⟨behind.reverse, before.reverse, ?_, fun g hg => hbefore g (List.mem_reverse.1 hg)⟩
      rw [← List.reverse_reverse owner.fields, hfields]
      simp
    · rintro ⟨before, behind, hfields, hbehind⟩
      refine ⟨behind.reverse, before.reverse, ?_, fun g hg => hbehind g (List.mem_reverse.1 hg)⟩
      rw [hfields]
      simp
  · rw [shown, lookup_map_filter, Option.map_eq_some_iff]
    refine exists_congr fun f => ?_
    rw [List.find?_eq_some_iff_append, Bool.and_eq_true, decide_eq_true_eq, shows_eq_true_iff,
      and_assoc, and_assoc, @eq_comm _ p]
    simp only [hnone]

theorem shown?_eq_none_iff {k : String} :
    shown? c policy accessors subject k owner = none ↔
      ∀ f ∈ owner.fields, f.name = k → ¬Shows policy accessors subject owner f := by
  have hlookup : ∀ fs : List FieldDecl,
      (((fs.filter (shows policy accessors subject owner)).map fun f =>
        (f.name, ofField c f)).lookup k) = none ↔
          ∀ f ∈ fs, f.name = k → ¬Shows policy accessors subject owner f := by
    intro fs
    rw [lookup_map_filter, Option.map_eq_none_iff, List.find?_eq_none]
    simp only [Bool.and_eq_true, decide_eq_true_eq, shows_eq_true_iff, not_and]
  rw [shown?]
  split
  · rw [shown, ← List.map_reverse, ← List.filter_reverse, hlookup]
    simp only [List.mem_reverse]
  · rw [shown, hlookup]

/-! ## The fields of several classes -/

/-- Where the first class that has a field of the name decides, the map holds the fields that
    show. -/
theorem collectsFields_of_get? {fields : NameMap Property}
    (h : ∀ k, fields.get? k = owners.findSome? (shown? c policy accessors subject k)) :
    CollectsFields fields accessors c policy subject owners := by
  have hentries : ∀ k p, fields.get? k = some p ↔
      ∃ owner f, IsNearestField policy accessors subject owners k owner f ∧
        p = ofField c f := by
    intro k p
    rw [h, List.findSome?_eq_some_iff]
    constructor
    · rintro ⟨nearer, owner, farther, howners, hshown, hnearer⟩
      obtain ⟨f, hname, hshows, hsingle, rfl⟩ := shown?_eq_some_iff.1 hshown
      exact ⟨owner, f, ⟨hname, hshows, hsingle, nearer, farther, howners,
        fun o ho => shown?_eq_none_iff.1 (hnearer o ho)⟩, rfl⟩
    · rintro ⟨owner, f, ⟨hname, hshows, hsingle, nearer, farther, howners, hnearer⟩, rfl⟩
      exact ⟨nearer, owner, farther, howners, shown?_eq_some_iff.2 ⟨f, hname, hshows, hsingle, rfl⟩,
        fun o ho => shown?_eq_none_iff.2 (hnearer o ho)⟩
  refine ⟨fun k => ?_, fun k p => ?_, fun p hp => ?_⟩
  · rw [NameMap.mem_keys_iff, NameMap.contains, h, List.findSome?_isSome_iff]
    refine exists_congr fun owner => and_congr_right fun _ => ?_
    rw [← Option.ne_none_iff_isSome, Ne, shown?_eq_none_iff]
    simp
  · rw [hentries]
    refine exists_congr fun owner => exists_congr fun f => and_congr_right fun hf => ?_
    rw [ofField, hf.named]
  · obtain ⟨e, he, rfl⟩ := List.mem_map.1 hp
    obtain ⟨owner, f, hf, hp⟩ := (hentries _ _).1 (NameMap.get?_of_mem_entries he)
    rw [hp]
    exact hf.shows.uncovered

/-! ## The fields of a surface -/

variable {d : TypeDecl}

theorem get?_declaredFields (k : String) :
    (ofDeclaration c policy d).declaredFields.get? k =
      [d].findSome? (shown? c policy (ofDeclaration c policy d).accessors d k) := by
  rw [List.findSome?_singleton, shown?, if_pos rfl, ← fieldsIn_self, ← NameMap.get?_ofList]
  rfl

/-- The classes that the subject extends come behind it, and the subject is none of them. -/
theorem get?_fields (hd : c.find? d.name = some d) (k : String) :
    (ofDeclaration c policy d).fields.get? k =
      (c.ancestry d.name).findSome? (shown? c policy (ofDeclaration c policy d).accessors d k) := by
  have hne : ∀ o ∈ (c.superclasses d.name).filterMap c.find?, o ≠ d := by
    rintro o ho rfl
    obtain ⟨m, hm, hfind⟩ := List.mem_filterMap.1 ho
    exact Catalog.ne_of_mem_superclasses hm (Catalog.name_of_find? hfind).symm
  have hinherited : ((c.superclasses d.name).filterMap c.find?).findSome? (fun o =>
        (fieldsIn c (ofDeclaration c policy d).accessors false o).lookup k) =
      ((c.superclasses d.name).filterMap c.find?).findSome?
        (shown? c policy (ofDeclaration c policy d).accessors d k) := by
    rw [← List.head?_filterMap, ← List.head?_filterMap]
    refine congrArg List.head? (List.filterMap_congr fun o ho => ?_)
    rw [shown?, if_neg (hne o ho), fieldsIn_of_ne (hne o ho)]
  have hfields : (ofDeclaration c policy d).fields =
      (ofDeclaration c policy d).declaredFields.addNew
        (((c.superclasses d.name).filterMap c.find?).flatMap
          (fieldsIn c (ofDeclaration c policy d).accessors false)) := rfl
  rw [hfields, NameMap.get?_addNew, get?_declaredFields, lookup_flatMap, hinherited,
    List.findSome?_singleton, Catalog.ancestry, List.filterMap_cons_some hd, List.findSome?_cons]
  cases shown? c policy (ofDeclaration c policy d).accessors d k d <;> rfl

/-- The fields of a surface are those that show of the subject and the classes that it extends, the
    nearest of each name, and those that it declares are its own. -/
theorem collectsFields_of_describe {n : QualifiedName} {s : Surface}
    (h : describe c policy n = .ok s) :
    ∃ d, c.find? n = some d ∧
      CollectsFields s.fields s.accessors c policy d (c.ancestry n) ∧
      CollectsFields s.declaredFields s.accessors c policy d [d] := by
  obtain ⟨d, hd, -, rfl⟩ := describe_eq_ok_iff.1 h
  obtain rfl := Catalog.name_of_find? hd
  exact ⟨d, hd, collectsFields_of_get? (get?_fields hd), collectsFields_of_get? get?_declaredFields⟩

/-- A class with one field that an accessor reads and one that it hides. -/
def disc : TypeDecl where
  name := ⟨"a", [], "Disc"⟩
  superclass := some (.raw ⟨"a", [], "Figure"⟩)
  methods := [.reading "getSize" (.raw ⟨"", [], "int"⟩)]
  fields := [⟨"size", .raw ⟨"", [], "int"⟩, .toAll, false⟩,
    ⟨"label", .raw ⟨"", [], "int"⟩, .toClass, false⟩]

/-- The class that it extends, with open fields of both names. -/
def figure : TypeDecl where
  name := ⟨"a", [], "Figure"⟩
  fields := [⟨"size", .raw ⟨"", [], "long"⟩, .toAll, false⟩, ⟨"label", .object, .toAll, false⟩]

/-- A catalog in which fields of a class stand in front of fields that it inherits. -/
def shadowing : Catalog := .ofList [disc, figure]

theorem collectsFields_of_describe_shadowing :
    ∃ s, describe shadowing {} disc.name = .ok s ∧ ∃ d, shadowing.find? disc.name = some d ∧
      CollectsFields s.fields s.accessors shadowing {} d (shadowing.ancestry disc.name) ∧
      CollectsFields s.declaredFields s.accessors shadowing {} d [d] := by
  have hfind : shadowing.find? disc.name = some disc := by decide
  have hdescribe : describe shadowing {} disc.name = .ok (ofDeclaration shadowing {} disc) :=
    describe_eq_ok_iff.2 ⟨disc, hfind, rfl, rfl⟩
  exact ⟨_, hdescribe, collectsFields_of_describe hdescribe⟩

example : (ofDeclaration shadowing {} disc).fields.values.map (·.type) =
    [.object, .raw ⟨"", [], "long"⟩] := by decide +kernel

end Surface
end AssertionWriter
