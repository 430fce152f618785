/-
  AssertionWriter.Proofs.Catalog.Selection

  The selected declarations, said without sorting: those that some request asks for, in
  strictly ascending order of their names. A list in that order is determined by its
  members, so the order of the catalog and that of the requests leave no trace.
-/
import AssertionWriter.Catalog.Selection
import AssertionWriter.Proofs.Catalog.Readable
import AssertionWriter.Proofs.QualifiedName.Order
import AssertionWriter.Proofs.Repeats
import Mathlib.Data.List.Nodup

namespace AssertionWriter

namespace Catalog

/-! ## Ascending declarations -/

/-- The names of the declarations are strictly ascending. -/
def Ascending (ds : List TypeDecl) : Prop := ds.Pairwise fun d e => compare d.name e.name = .lt

theorem Ascending.nodup {ds : List TypeDecl} (h : Ascending ds) : ds.Nodup := by
  refine h.imp fun hlt heq => ?_
  rw [heq, Std.ReflOrd.compare_self] at hlt
  cases hlt

/-- The order leaves no choice to lists of the same declarations. -/
theorem Ascending.eq_of_mem_iff {ds es : List TypeDecl} (hd : Ascending ds) (he : Ascending es)
    (h : ∀ d, d ∈ ds ↔ d ∈ es) : ds = es := by
  have hperm : ds.Perm es := (List.perm_ext_iff_of_nodup hd.nodup he.nodup).2 h
  refine hperm.eq_of_pairwise (fun d e _ _ hlt hgt => ?_) hd he
  rw [Std.OrientedOrd.eq_swap, hgt] at hlt
  cases hlt

theorem pairwise_sortByName (ds : List TypeDecl) :
    (sortByName ds).Pairwise fun d e => (compare d.name e.name).isLE = true :=
  pairwise_mergeSort_key compare (·.name) ds

theorem mem_sortByName {ds : List TypeDecl} {d : TypeDecl} : d ∈ sortByName ds ↔ d ∈ ds := by
  rw [sortByName, List.mem_mergeSort]

/-! ## Declarations of a catalog -/

variable {c c' : Catalog} {d e : TypeDecl} {requests : List String} {request : String}

theorem eq_of_name_eq (hd : d ∈ c.decls) (he : e ∈ c.decls) (h : d.name = e.name) : d = e :=
  List.inj_on_of_nodup_map c.distinct hd he h

theorem find?_eq_some_iff {n : QualifiedName} :
    c.find? n = some d ↔ d ∈ c.decls ∧ d.name = n := by
  refine ⟨fun h => ⟨mem_of_find? h, name_of_find? h⟩, ?_⟩
  rintro ⟨hd, rfl⟩
  have hsome : (c.find? d.name).isSome = true :=
    List.find?_isSome.2 ⟨d, hd, decide_eq_true rfl⟩
  obtain ⟨e, he⟩ := Option.isSome_iff_exists.1 hsome
  rw [he, eq_of_name_eq (mem_of_find? he) hd (name_of_find? he)]

/-- Catalogs have the same look-ups just if they hold the same declarations. -/
theorem find?_eq_iff : (∀ n, c.find? n = c'.find? n) ↔ ∀ d, d ∈ c.decls ↔ d ∈ c'.decls := by
  constructor
  · intro h d
    have hd := @find?_eq_some_iff c d d.name
    rw [h, find?_eq_some_iff] at hd
    simpa using hd.symm
  · intro h n
    refine Option.ext fun d => ?_
    rw [find?_eq_some_iff, find?_eq_some_iff, h]

theorem Readable.compare_eq_iff (hc : c.Readable) (hd : d ∈ c.decls) (he : e ∈ c.decls) :
    compare d.name e.name = .eq ↔ d.name = e.name :=
  QualifiedName.compare_eq_iff (hc d hd).name (hc e he).name

/-! ## Requests -/

/-- What a request selects: the type that it names, or else the types of the package. -/
theorem mem_requested_iff : d ∈ c.requested request ↔
    c.requestedType? request = some d ∨
      c.requestedType? request = none ∧
        d ∈ c.decls ∧ d.name.package = request ∧ d.isEligible = true := by
  rw [requested]
  split
  · next e he => simp [he, @eq_comm _ d]
  · next hnone => simp [hnone]

theorem mem_selectAll : d ∈ c.selectAll ↔ d ∈ c.decls ∧ d.isEligible = true := by
  rw [selectAll, mem_sortByName, List.mem_filter]

/-- Whatever is asked for is among all that are eligible. -/
theorem mem_selectAll_of_mem_requested (h : d ∈ c.requested request) : d ∈ c.selectAll := by
  rw [mem_selectAll]
  rcases mem_requested_iff.1 h with h | ⟨-, hd, -, heligible⟩
  · obtain ⟨h, heligible⟩ := Option.filter_eq_some_iff.1 h
    obtain ⟨n, -, hfind⟩ := Option.bind_eq_some_iff.1 h
    exact ⟨mem_of_find? hfind, heligible⟩
  · exact ⟨hd, heligible⟩

theorem requestedType?_congr (h : ∀ n, c.find? n = c'.find? n) :
    c.requestedType? request = c'.requestedType? request := by
  rw [requestedType?, funext h, ← requestedType?]

theorem mem_requested_congr (h : ∀ n, c.find? n = c'.find? n) :
    d ∈ c.requested request ↔ d ∈ c'.requested request := by
  rw [mem_requested_iff, mem_requested_iff, requestedType?_congr h, find?_eq_iff.1 h]

/-- What a request gives that asks for these declarations, of which there must be some. -/
def given (request : String) : List TypeDecl → Except CatalogError (List TypeDecl)
  | [] => .error (.notFound request)
  | ds => .ok ds

/-- What a request gives. -/
def answer (c : Catalog) (request : String) : Except CatalogError (List TypeDecl) :=
  given (trimmed request) (c.requested (trimmed request))

theorem select_eq : c.select requests = do
    return dropRepeats (·.name) (sortByName (← requests.mapM c.answer).flatten) := by
  refine congrArg (· >>= _) (congrArg (List.mapM · requests) (funext fun request => ?_))
  rw [answer]
  cases c.requested (trimmed request) <;> rfl

theorem answer_eq_ok_iff {ds : List TypeDecl} : c.answer request = .ok ds ↔
    ds = c.requested (trimmed request) ∧ ∃ d, d ∈ c.requested (trimmed request) := by
  rw [answer]
  cases c.requested (trimmed request) with
  | nil => simp [given]
  | cons d es => simp [given, @eq_comm _ ds]

theorem eq_notFound_of_answer {cause : CatalogError} (h : c.answer request = .error cause) :
    cause = .notFound (trimmed request) := by
  rw [answer] at h
  cases hrequested : c.requested (trimmed request) with
  | nil =>
    rw [hrequested] at h
    exact (Except.error.inj h).symm
  | cons d es =>
    rw [hrequested] at h
    cases h

/-! ## Selections -/

/-- The declarations are those that the requests ask for, each once and in ascending order, and
    no request asks in vain. -/
structure IsSelection (c : Catalog) (requests : List String) (ds : List TypeDecl) : Prop where
  answered : ∀ request ∈ requests, ∃ d, d ∈ c.requested (trimmed request)
  ascending : Ascending ds
  mem_iff : ∀ d, d ∈ ds ↔ ∃ request ∈ requests, d ∈ c.requested (trimmed request)

/-- What the requests ask for, one after the other. -/
def asked (c : Catalog) (requests : List String) : List TypeDecl :=
  requests.flatMap fun request => c.requested (trimmed request)

theorem mem_asked : d ∈ c.asked requests ↔ ∃ request ∈ requests, d ∈ c.requested (trimmed request) :=
  List.mem_flatMap

theorem select_eq_ok {ds : List TypeDecl} : c.select requests = .ok ds ↔
    (∀ request ∈ requests, ∃ d, d ∈ c.requested (trimmed request)) ∧
      ds = dropRepeats (·.name) (sortByName (c.asked requests)) := by
  rw [select_eq, bind_eq_ok_iff]
  constructor
  · rintro ⟨found, hfound, h⟩
    refine ⟨fun request hrequest => ?_, ?_⟩
    · obtain ⟨ds, -, hds⟩ := exists_of_mem_of_mapM hfound request hrequest
      exact (answer_eq_ok_iff.1 hds).2
    · have hmap := map_eq_of_mapM (k := id) (fun _ _ _ hds => (answer_eq_ok_iff.1 hds).1) hfound
      rw [List.map_id] at hmap
      rw [hmap, ← List.flatMap_def] at h
      exact (Except.ok.inj h).symm
  · rintro ⟨hanswered, rfl⟩
    refine ⟨requests.map fun request => c.requested (trimmed request), mapM_eq_ok_iff.2 ?_, ?_⟩
    · rw [List.map_map]
      exact List.map_congr_left fun request hrequest =>
        answer_eq_ok_iff.2 ⟨rfl, hanswered request hrequest⟩
    · rw [← List.flatMap_def]
      rfl

/-- Only what some request asks for is selected. -/
theorem exists_request_of_select {ds : List TypeDecl} (h : c.select requests = .ok ds)
    (hd : d ∈ ds) : ∃ request ∈ requests, d ∈ c.requested (trimmed request) := by
  rw [(select_eq_ok.1 h).2] at hd
  exact mem_asked.1 (mem_sortByName.1 (mem_of_mem_dropRepeats hd))

theorem exists_request_of_select_eq_error {cause : CatalogError}
    (h : c.select requests = .error cause) :
    ∃ request ∈ requests, cause = .notFound (trimmed request) := by
  rw [select_eq] at h
  rcases bind_eq_error_iff.1 h with h | ⟨found, -, h⟩
  · obtain ⟨request, hrequest, hanswer⟩ := exists_of_mapM_eq_error h
    exact ⟨request, hrequest, eq_notFound_of_answer hanswer⟩
  · cases h

/-- What is asked for is sorted by names that are apart, so only repetitions are dropped. -/
theorem isSelection_asked (hc : c.Readable)
    (hanswered : ∀ request ∈ requests, ∃ d, d ∈ c.requested (trimmed request)) :
    c.IsSelection requests (dropRepeats (·.name) (sortByName (c.asked requests))) := by
  have hdecls : ∀ d ∈ sortByName (c.asked requests), d ∈ c.decls := by
    intro d hd
    obtain ⟨request, -, hrequest⟩ := mem_asked.1 (mem_sortByName.1 hd)
    exact (mem_selectAll.1 (mem_selectAll_of_mem_requested hrequest)).1
  refine ⟨hanswered, ?_, fun d => ?_⟩
  · exact pairwise_lt_dropRepeats (pairwise_sortByName _) fun d hd e he =>
      (hc.compare_eq_iff (hdecls d hd) (hdecls e he)).1
  · rw [mem_dropRepeats fun d hd e he => eq_of_name_eq (hdecls d hd) (hdecls e he),
      mem_sortByName, mem_asked]

/-- A list of requests has one selection, and none if a request asks in vain. -/
theorem select_eq_ok_iff (hc : c.Readable) {ds : List TypeDecl} :
    c.select requests = .ok ds ↔ c.IsSelection requests ds := by
  rw [select_eq_ok]
  constructor
  · rintro ⟨hanswered, rfl⟩
    exact isSelection_asked hc hanswered
  · intro h
    have hasked := isSelection_asked hc h.answered
    exact ⟨h.answered, h.ascending.eq_of_mem_iff hasked.ascending fun d =>
      (h.mem_iff d).trans (hasked.mem_iff d).symm⟩

theorem IsSelection.congr {requests' : List String} {ds : List TypeDecl}
    (h : c.IsSelection requests ds) (hfind : ∀ n, c.find? n = c'.find? n)
    (hrequests : ∀ request, request ∈ requests' ↔ request ∈ requests) :
    c'.IsSelection requests' ds where
  answered request hrequest := by
    obtain ⟨d, hd⟩ := h.answered request ((hrequests request).1 hrequest)
    exact ⟨d, (mem_requested_congr hfind).1 hd⟩
  ascending := h.ascending
  mem_iff d := by
    rw [h.mem_iff]
    exact exists_congr fun request =>
      and_congr (hrequests request).symm (mem_requested_congr hfind)

/-! ## All declarations -/

theorem ascending_selectAll (hc : c.Readable) : Ascending c.selectAll := by
  have hapart : c.selectAll.Pairwise fun d e => d.name ≠ e.name := by
    have hperm : c.selectAll.Perm (c.decls.filter TypeDecl.isEligible) := List.mergeSort_perm _ _
    have hnodup : ((c.decls.filter TypeDecl.isEligible).map (·.name)).Nodup :=
      c.distinct.sublist (List.filter_sublist.map _)
    exact List.pairwise_map.1 ((hperm.map _).nodup_iff.2 hnodup)
  refine ((pairwise_sortByName _).and hapart).imp_of_mem fun hd he h => ?_
  refine (Ordering.isLE_iff_eq_lt_or_eq_eq.1 h.1).resolve_right fun heq => h.2 ?_
  exact (hc.compare_eq_iff (mem_selectAll.1 hd).1 (mem_selectAll.1 he).1).1 heq

theorem selectAll_congr (hc : c.Readable) (hc' : c'.Readable)
    (h : ∀ n, c.find? n = c'.find? n) : c'.selectAll = c.selectAll := by
  refine Ascending.eq_of_mem_iff (ascending_selectAll hc') (ascending_selectAll hc) fun d => ?_
  rw [mem_selectAll, mem_selectAll, find?_eq_iff.1 h]

end Catalog
end AssertionWriter
