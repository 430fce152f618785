/-
  AssertionWriter.Proofs.Catalog.Requests

  Requests for types of a catalog. One that can be read as the name of an eligible type asks
  for that type alone, even where it is the name of a package too; otherwise it asks for the
  eligible types of the package. The first one that asks for nothing is what a selection
  fails with.
-/
import AssertionWriter.Proofs.Catalog.RoundTrip
import AssertionWriter.Proofs.Catalog.Selection

namespace AssertionWriter.Catalog

variable {c : Catalog} {d : TypeDecl} {request : String} {requests : List String}

/-! ## What a request asks for -/

/-- The request is the name of an eligible declaration. -/
structure Names (c : Catalog) (request : String) (d : TypeDecl) : Prop where
  mem : d ∈ c.decls
  eligible : d.isEligible = true
  read : QualifiedName.parse? request = some d.name

/-- The request is the package of an eligible declaration. -/
structure Houses (c : Catalog) (request : String) (d : TypeDecl) : Prop where
  mem : d ∈ c.decls
  eligible : d.isEligible = true
  package : d.name.package = request

/-- The request asks for the declaration. -/
inductive AsksFor (c : Catalog) (request : String) (d : TypeDecl) : Prop where
  | byName : c.Names request d → AsksFor c request d
  | byPackage : (∀ e, ¬c.Names request e) → c.Houses request d → AsksFor c request d

/-- The request is the name or the package of some eligible declaration. -/
def Answers (c : Catalog) (request : String) : Prop :=
  ∃ d, c.Names request d ∨ c.Houses request d

theorem requestedType?_eq_some_iff : c.requestedType? request = some d ↔ c.Names request d := by
  rw [requestedType?, Option.filter_eq_some_iff, Option.bind_eq_some_iff]
  constructor
  · rintro ⟨⟨n, hread, hfind⟩, heligible⟩
    obtain ⟨hd, rfl⟩ := find?_eq_some_iff.1 hfind
    exact ⟨hd, heligible, hread⟩
  · intro h
    exact ⟨⟨d.name, h.read, find?_eq_some_iff.2 ⟨h.mem, rfl⟩⟩, h.eligible⟩

theorem mem_requested_iff_asksFor : d ∈ c.requested request ↔ c.AsksFor request d := by
  rw [mem_requested_iff, requestedType?_eq_some_iff, Option.eq_none_iff_forall_ne_some]
  constructor
  · rintro (h | ⟨hnone, hd, hpackage, heligible⟩)
    · exact .byName h
    · exact .byPackage (fun e he => hnone e (requestedType?_eq_some_iff.2 he))
        ⟨hd, heligible, hpackage⟩
  · rintro (h | ⟨hnone, h⟩)
    · exact .inl h
    · exact .inr ⟨fun e he => hnone e (requestedType?_eq_some_iff.1 he),
        h.mem, h.package, h.eligible⟩

theorem answers_iff : c.Answers request ↔ ∃ d, d ∈ c.requested request := by
  simp only [mem_requested_iff_asksFor]
  constructor
  · rintro ⟨d, h⟩
    -- Where the request is a name as well as a package, the type that it names is what it gives.
    by_cases hname : ∃ e, c.Names request e
    · obtain ⟨e, he⟩ := hname
      exact ⟨e, .byName he⟩
    · have hnone : ∀ e, ¬c.Names request e := not_exists.1 hname
      exact ⟨d, .byPackage hnone (h.resolve_left (hnone d))⟩
  · rintro ⟨d, h | ⟨-, h⟩⟩
    · exact ⟨d, .inl h⟩
    · exact ⟨d, .inr h⟩

/-! ## Failing requests -/

theorem exists_answer_iff :
    (∃ ds, c.answer request = .ok ds) ↔ c.Answers (trimmed request) := by
  simp only [answer_eq_ok_iff, answers_iff, exists_eq_left]

theorem answer_eq_error_iff {cause : CatalogError} : c.answer request = .error cause ↔
    ¬c.Answers (trimmed request) ∧ cause = .notFound (trimmed request) := by
  rw [← exists_answer_iff]
  constructor
  · intro h
    refine ⟨fun ⟨ds, hds⟩ => ?_, eq_notFound_of_answer h⟩
    rw [h] at hds
    cases hds
  · rintro ⟨hnone, rfl⟩
    cases h : c.answer request with
    | ok ds => exact absurd ⟨ds, h⟩ hnone
    | error e => rw [eq_notFound_of_answer h]

/-- A selection fails with the first request that asks for nothing. -/
theorem select_eq_error_iff {cause : CatalogError} : c.select requests = .error cause ↔
    ∃ front request back, requests = front ++ request :: back ∧
      (∀ r ∈ front, c.Answers (trimmed r)) ∧ ¬c.Answers (trimmed request) ∧
      cause = .notFound (trimmed request) := by
  have hrest : ∀ found : List (List TypeDecl),
      (pure (dropRepeats (·.name) (sortByName found.flatten)) : Except CatalogError _) ≠
        .error cause :=
    nofun
  simp only [select_eq, bind_eq_error_iff, hrest, and_false, exists_false, or_false,
    mapM_eq_error_iff, exists_answer_iff, answer_eq_error_iff]

/-! ## Requests for all types -/

/-- A declaration is asked for, alone, by the binary spelling of its name. -/
theorem asksFor_binary_iff (hc : c.Readable) (hd : d ∈ c.decls) (heligible : d.isEligible = true)
    {e : TypeDecl} : c.AsksFor (trimmed d.name.binary) e ↔ e = d := by
  have hread : QualifiedName.parse? (trimmed d.name.binary) = some d.name := by
    rw [trimmed, QualifiedName.trim_binary (hc d hd).name, String.ofList_toList,
      QualifiedName.parse?_binary (hc d hd).name]
  have hnames : c.Names (trimmed d.name.binary) d := ⟨hd, heligible, hread⟩
  constructor
  · rintro (h | ⟨hnone, -⟩)
    · exact eq_of_name_eq h.mem hd (Option.some.inj (h.read.symm.trans hread))
    · exact absurd hnames (hnone d)
  · rintro rfl
    exact .byName hnames

/-- The names of all eligible types select what no request at all does. -/
theorem select_binary (hc : c.Readable)
    (hrequests : ∀ r, r ∈ requests ↔ ∃ d ∈ c.decls, d.isEligible = true ∧ d.name.binary = r) :
    c.select requests = .ok c.selectAll := by
  -- No name asks for a package, so each selects its own declaration and nothing else.
  have hself : ∀ d ∈ c.decls, d.isEligible = true → ∀ e,
      e ∈ c.requested (trimmed d.name.binary) ↔ e = d := fun d hd heligible e =>
    mem_requested_iff_asksFor.trans (asksFor_binary_iff hc hd heligible)
  refine (select_eq_ok_iff hc).2 ⟨fun r hr => ?_, ascending_selectAll hc, fun d => ?_⟩
  · obtain ⟨d, hd, heligible, rfl⟩ := (hrequests r).1 hr
    exact ⟨d, (hself d hd heligible d).2 rfl⟩
  · rw [mem_selectAll]
    constructor
    · rintro ⟨hd, heligible⟩
      exact ⟨d.name.binary, (hrequests _).2 ⟨d, hd, heligible, rfl⟩, (hself d hd heligible d).2 rfl⟩
    · rintro ⟨r, hr, hmem⟩
      obtain ⟨e, he, heligible, rfl⟩ := (hrequests r).1 hr
      obtain rfl := (hself e he heligible d).1 hmem
      exact ⟨he, heligible⟩

/-! ## Selections -/

/-- What a list of requests selects from a catalog that has been read, and what it fails with. -/
theorem select_iff_answers {text : String} (h : parse text = .ok c) (requests : List String) :
    (∀ cause, c.select requests = .error cause ↔
      ∃ front request back, requests = front ++ request :: back ∧
        (∀ r ∈ front, c.Answers (trimmed r)) ∧ ¬c.Answers (trimmed request) ∧
        cause = .notFound (trimmed request)) ∧
    (∀ ds, c.select requests = .ok ds ↔
      (∀ r ∈ requests, c.Answers (trimmed r)) ∧ Ascending ds ∧
        ∀ d, d ∈ ds ↔ ∃ r ∈ requests, c.AsksFor (trimmed r) d) ∧
    ((∀ r, r ∈ requests ↔ ∃ d ∈ c.decls, d.isEligible = true ∧ d.name.binary = r) →
      c.select requests = .ok c.selectAll) := by
  have hc := readable_of_parse h
  refine ⟨fun cause => select_eq_error_iff, fun ds => ?_, select_binary hc⟩
  simp only [select_eq_ok_iff hc, answers_iff, ← mem_requested_iff_asksFor]
  exact ⟨fun hds => ⟨hds.answered, hds.ascending, hds.mem_iff⟩,
    fun ⟨hanswered, hascending, hmem⟩ => ⟨hanswered, hascending, hmem⟩⟩

/-- A class whose name is that of a package. -/
def packageClass : TypeDecl where
  name := ⟨"a", [], "b"⟩

/-- A class in the package of that name. -/
def innerClass : TypeDecl where
  name := ⟨"a.b", [], "C"⟩

/-- A catalog of the two. -/
def packageAndClass : Catalog := .ofList [innerClass, packageClass]

theorem decls_packageAndClass : packageAndClass.decls = [innerClass, packageClass] := by decide

theorem parse_packageAndClass : parse packageAndClass.toText = .ok packageAndClass := by
  have hpackage : QualifiedName.parse? "a.b" = some packageClass.name := by decide
  have hinner : QualifiedName.parse? "a.b.C" = some innerClass.name := by decide
  refine parse_toText_of_reread (fun d hd => ?_) (by decide)
  rw [decls_packageAndClass, List.mem_pair] at hd
  rcases hd with rfl | rfl
  · refine ⟨QualifiedName.wellFormed_of_parse? hinner, ?_, ?_, ?_, ?_⟩ <;> simp [innerClass]
  · refine ⟨QualifiedName.wellFormed_of_parse? hpackage, ?_, ?_, ?_, ?_⟩ <;> simp [packageClass]

/-- The class that has the name of a package is the only one which that name asks for. -/
theorem select_iff_answers_packageAndClass :
    parse packageAndClass.toText = .ok packageAndClass ∧
      packageAndClass.select ["a.b", " a.c\n", "", "a"] = .error (.notFound "a.c") ∧
      packageAndClass.select ["a.b", "a", "a.b"] = .ok [packageClass] ∧
      packageAndClass.select ["a.b.C", "a.b"] = .ok packageAndClass.selectAll := by
  have hname : packageAndClass.requested (trimmed "a.b") = [packageClass] := by decide
  have hpackage : packageAndClass.requested (trimmed "a") = [packageClass] := by decide
  have hmissing : packageAndClass.requested (trimmed " a.c\n") = [] := by decide
  have hselect := select_iff_answers parse_packageAndClass
  refine ⟨parse_packageAndClass, ?_, ?_, ?_⟩
  · refine ((hselect _).1 _).2 ⟨["a.b"], " a.c\n", ["", "a"], rfl, fun r hr => ?_, ?_, by decide⟩
    · rw [List.mem_singleton.1 hr, answers_iff, hname]
      exact ⟨packageClass, List.mem_singleton.2 rfl⟩
    · rw [answers_iff, hmissing]
      exact fun ⟨d, hd⟩ => List.not_mem_nil hd
  · refine ((hselect _).2.1 _).2 ⟨fun r hr => ?_, List.pairwise_singleton _ _, fun d => ?_⟩
    · rw [answers_iff]
      simp only [List.mem_cons, List.not_mem_nil, or_false] at hr
      rcases hr with rfl | rfl | rfl
      · exact ⟨packageClass, by simp [hname]⟩
      · exact ⟨packageClass, by simp [hpackage]⟩
      · exact ⟨packageClass, by simp [hname]⟩
    · simp [← mem_requested_iff_asksFor, hname, hpackage]
  · refine (hselect _).2.2 fun r => ?_
    rw [decls_packageAndClass]
    simp only [List.mem_pair, exists_eq_or_imp, exists_eq_left]
    have hinner : innerClass.isEligible = true ∧ innerClass.name.binary = "a.b.C" := by decide
    have hlower : packageClass.isEligible = true ∧ packageClass.name.binary = "a.b" := by decide
    simp [hinner, hlower, @eq_comm _ r]

end AssertionWriter.Catalog
