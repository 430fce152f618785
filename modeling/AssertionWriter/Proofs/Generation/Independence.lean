/-
  AssertionWriter.Proofs.Generation.Independence

  What a run does not depend on: the order in which the catalog holds its types, and the
  order and the repetitions of the requests. The selected types are sorted by name, and
  apart from the selection a run only looks types up.
-/
import AssertionWriter.Proofs.Generation.Paths
import AssertionWriter.Proofs.Surface.Locality

namespace AssertionWriter
open Files Template

/-- Catalogs with the same declarations agree on all names. -/
theorem Catalog.agreeOn_of_find?_eq {c c' : Catalog} (h : ∀ n, c.find? n = c'.find? n) :
    AgreeOn (fun _ => True) c c' :=
  ⟨fun n _ => (h n).symm, fun _ _ _ _ _ _ => trivial⟩

namespace GenerationOptions

variable {o : GenerationOptions} {types : List String} {c c' : Catalog}

/-! ## The stages of a run -/

theorem selection_eq_ok (hc : c.Readable) (hc' : c'.Readable)
    (hfind : ∀ n, c.find? n = c'.find? n) (htypes : ∀ r, r ∈ types ↔ r ∈ o.types)
    {ds : List TypeDecl} (h : o.selection c = .ok ds) :
    selection { o with types } c' = .ok ds := by
  have hempty : types.isEmpty = o.types.isEmpty := by
    rw [Bool.eq_iff_iff, List.isEmpty_iff, List.isEmpty_iff, List.eq_nil_iff_forall_not_mem,
      List.eq_nil_iff_forall_not_mem]
    exact forall_congr' fun r => not_congr (htypes r)
  rw [selection] at h ⊢
  rw [hempty]
  split at h
  · rw [if_pos ‹_›, Catalog.selectAll_congr hc hc' hfind, h]
  · rw [if_neg ‹_›, Catalog.select_eq_ok_iff hc']
    exact ((Catalog.select_eq_ok_iff hc).1 h).congr hfind htypes

theorem plan_eq (hselection : selection { o with types } c' = o.selection c)
    (hfind : ∀ n, c.find? n = c'.find? n) (templates : TemplateSet) :
    plan { o with types } c' templates = o.plan c templates := by
  have hdescribe : (fun d : TypeDecl => Surface.describe c' o.policy d.name) =
      fun d => Surface.describe c o.policy d.name :=
    funext fun d => Surface.describe_eq (Catalog.agreeOn_of_find?_eq hfind) o.policy trivial
  have hsurfaces : surfaces { o with types } c' = o.surfaces c := by
    rw [surfaces, hselection, surfaces, ← hdescribe]
    rfl
  rw [plan, hsurfaces, plan]
  rfl

/-- Runs with the same selection do the same. -/
theorem run_eq (hselection : selection { o with types } c' = o.selection c)
    (hfind : ∀ n, c.find? n = c'.find? n) :
    (run { o with types } c' : StateM FileSystem _) = o.run c := by
  have hload : (loadTemplates { o with types } : StateM FileSystem _) = o.loadTemplates := rfl
  rw [run, hload, funext (plan_eq hselection hfind), run]

/-! ## Runs -/

/-- A run that succeeds reports the same and leaves the same files for any catalog of the same
    types, whatever their order, and for the same requests in any order and number. -/
theorem run_eq_of_find?_eq {text text' : String} (hc : Catalog.parse text = .ok c)
    (hc' : Catalog.parse text' = .ok c') (hfind : ∀ n, c.find? n = c'.find? n)
    (htypes : ∀ r, r ∈ types ↔ r ∈ o.types) {fs : FileSystem} {report : GenerationReport}
    (h : ((o.run c : StateM FileSystem _).run fs).1 = .ok report) :
    (run { o with types } c' : StateM FileSystem _).run fs =
      (o.run c : StateM FileSystem _).run fs := by
  obtain ⟨templates, files, -, hplan, -⟩ := run_eq_ok h
  obtain ⟨ss, hss, -, -⟩ := plan_eq_ok_iff.1 hplan
  obtain ⟨ds, hds, -⟩ := surfaces_eq_map hss
  have hselection := selection_eq_ok (Catalog.readable_of_parse hc)
    (Catalog.readable_of_parse hc') hfind htypes hds
  rw [run_eq (hselection.trans hds.symm) hfind]

/-! ## Two orders of one catalog -/

/-- The two classes of one flat name, the other way round. -/
def reversed : Catalog := .ofList [Catalog.flatClass, Catalog.nestedClass]

theorem find?_reversed (n : QualifiedName) :
    Catalog.sameFlatNames.find? n = reversed.find? n := by
  have hdecls : reversed.decls = [Catalog.flatClass, Catalog.nestedClass] := by decide
  refine Catalog.find?_eq_iff.2 (fun d => ?_) n
  rw [hdecls, Catalog.decls_sameFlatNames, List.mem_pair, List.mem_pair, or_comm]

theorem parse_reversed : Catalog.parse reversed.toText = .ok reversed := by
  have hreadable : reversed.Readable := fun d hd =>
    Catalog.readable_sameFlatNames d ((Catalog.find?_eq_iff.1 find?_reversed d).2 hd)
  exact Catalog.parse_toText_of_reread hreadable (by decide)

/-- The package and one of its types are all types. -/
theorem isSelection_requests :
    Catalog.sameFlatNames.IsSelection ["p", "p.AB"] [Catalog.nestedClass, Catalog.flatClass] := by
  have hpackage : Catalog.sameFlatNames.requested (Catalog.trimmed "p") =
      [Catalog.nestedClass, Catalog.flatClass] := by decide
  have htype : Catalog.sameFlatNames.requested (Catalog.trimmed "p.AB") =
      [Catalog.flatClass] := by decide
  refine ⟨fun request hrequest => ?_, List.pairwise_pair.2 (by decide), fun d => ?_⟩
  · rcases List.mem_pair.1 hrequest with rfl | rfl
    · exact ⟨Catalog.nestedClass, by simp [hpackage]⟩
    · exact ⟨Catalog.flatClass, by simp [htype]⟩
  · simp [hpackage, htype]

theorem selection_requests :
    selection { allTypes with types := ["p", "p.AB"] } Catalog.sameFlatNames =
      allTypes.selection Catalog.sameFlatNames := by
  have hall : allTypes.selection Catalog.sameFlatNames =
      .ok [Catalog.nestedClass, Catalog.flatClass] := selection_sameFlatNames rfl
  rw [hall]
  exact (Catalog.select_eq_ok_iff Catalog.readable_sameFlatNames).2 isSelection_requests

/-- Which of the two classes of one flat name is lost depends neither on the catalog nor on the
    requests. -/
theorem run_eq_of_find?_eq_reversed :
    Catalog.parse Catalog.sameFlatNames.toText = .ok Catalog.sameFlatNames ∧
      Catalog.parse reversed.toText = .ok reversed ∧
      (∀ n, Catalog.sameFlatNames.find? n = reversed.find? n) ∧
      (∀ r, r ∈ ["p.AB", "p", "p.AB"] ↔ r ∈ ["p", "p.AB"]) ∧
      ((run { allTypes with types := ["p", "p.AB"] } Catalog.sameFlatNames :
        StateM FileSystem _).run FileSystem.empty).1 =
          .ok ⟨2, ["out/p/ABAssert.java", "out/p/ABAssert.java"]⟩ ∧
      (run { allTypes with types := ["p.AB", "p", "p.AB"] } reversed :
        StateM FileSystem _).run FileSystem.empty =
          (run { allTypes with types := ["p", "p.AB"] } Catalog.sameFlatNames :
            StateM FileSystem _).run FileSystem.empty := by
  have htypes : ∀ r, r ∈ ["p.AB", "p", "p.AB"] ↔ r ∈ ["p", "p.AB"] := by
    intro r
    simp only [List.mem_cons, List.not_mem_nil, or_false]
    constructor
    · rintro (h | h | h)
      · exact .inr h
      · exact .inl h
      · exact .inr h
    · rintro (h | h)
      · exact .inr (.inl h)
      · exact .inl h
  have hrun : ((run { allTypes with types := ["p", "p.AB"] } Catalog.sameFlatNames :
      StateM FileSystem _).run FileSystem.empty).1 =
        .ok ⟨2, ["out/p/ABAssert.java", "out/p/ABAssert.java"]⟩ := by
    rw [run_eq selection_requests fun _ => rfl]
    exact run_sameFlatNames
  exact ⟨Catalog.parse_sameFlatNames, parse_reversed, find?_reversed, htypes, hrun,
    run_eq_of_find?_eq Catalog.parse_sameFlatNames parse_reversed find?_reversed htypes hrun⟩

end GenerationOptions
end AssertionWriter
