/-
  AssertionWriter.Proofs.Catalog.Readable

  What is in a catalog that has been read: every name is well formed, and every type is
  one that a signature gives.
-/
import AssertionWriter.Catalog.Document
import AssertionWriter.Proofs.Fallible
import AssertionWriter.Proofs.JavaType.Reading

namespace AssertionWriter

/-! ## Readable declarations -/

/-- Whether a method is one that a document gives. -/
structure MethodDecl.Readable (m : MethodDecl) : Prop where
  returnType : ∀ t ∈ m.returnType, t.Readable
  parameters : ∀ t ∈ m.parameters, t.Readable
  failures : ∀ n ∈ m.failures, n.WellFormed

/-- Whether a declaration is one that a document gives. -/
structure TypeDecl.Readable (d : TypeDecl) : Prop where
  name : d.name.WellFormed
  superclass : ∀ t ∈ d.superclass, t.Readable
  interfaces : ∀ t ∈ d.interfaces, t.Readable
  methods : ∀ m ∈ d.methods, m.Readable
  fields : ∀ f ∈ d.fields, f.type.Readable

/-- Whether a catalog is one that a document gives. -/
def Catalog.Readable (c : Catalog) : Prop := ∀ d ∈ c.decls, d.Readable

namespace Json

/-! ## Successful decoding -/

theorem of_decodeList {α : Type} {decode : Decoder α} {P : α → Prop}
    (hP : ∀ v a, decode v = .ok a → P a) {v : Json} {as : List α}
    (h : decodeList decode v = .ok as) : ∀ a ∈ as, P a := by
  unfold decodeList at h
  split at h
  · intro a ha
    obtain ⟨item, -, hitem⟩ := mem_of_mapM h a ha
    exact hP item a hitem
  · exact absurd h (by simp)

theorem of_decodeOption {α : Type} {decode : Decoder α} {P : α → Prop}
    (hP : ∀ v a, decode v = .ok a → P a) {v : Json} {o : Option α}
    (h : decodeOption decode v = .ok o) : ∀ a ∈ o, P a := by
  unfold decodeOption at h
  split at h
  · obtain rfl := Except.ok.inj h
    simp
  · obtain ⟨a, ha, rfl⟩ := map_eq_ok_iff.1 h
    intro b hb
    obtain rfl := Option.mem_some.1 hb
    exact hP _ _ ha

theorem Record.of_required {α : Type} {r : Record} {field : String} {decode : Decoder α}
    {P : α → Prop} (hP : ∀ v a, decode v = .ok a → P a) {a : α}
    (h : r.required field decode = .ok a) : P a := by
  unfold Record.required at h
  split at h
  · exact hP _ _ h
  · exact absurd h (by simp)

theorem Record.of_optional {α : Type} {r : Record} {field : String} {decode : Decoder α}
    {default : α} {P : α → Prop} (hP : ∀ v a, decode v = .ok a → P a) (hdefault : P default)
    {a : α} (h : r.optional field decode default = .ok a) : P a := by
  unfold Record.optional at h
  split at h
  · exact hP _ _ h
  · obtain rfl := Except.ok.inj h
    exact hdefault

theorem wellFormed_of_decodeName {v : Json} {n : QualifiedName} (h : decodeName v = .ok n) :
    n.WellFormed := by
  obtain ⟨text, -, h⟩ := bind_eq_ok_iff.1 h
  split at h
  · next m hm =>
    obtain rfl := Except.ok.inj h
    exact QualifiedName.wellFormed_of_parse? hm
  · exact absurd h (by simp [throw, throwThe, MonadExceptOf.throw])

theorem readable_of_decodeType {v : Json} {t : JavaType} (h : decodeType v = .ok t) :
    t.Readable := by
  obtain ⟨text, -, h⟩ := bind_eq_ok_iff.1 h
  split at h
  · next u hu =>
    obtain rfl := Except.ok.inj h
    exact JavaType.readable_of_parseLenient hu
  · exact absurd h (by simp [throw, throwThe, MonadExceptOf.throw])

end Json

/-! ## What documents give -/

open Json

theorem MethodDecl.readable_of_ofJson {v : Json} {m : MethodDecl} (h : ofJson v = .ok m) :
    m.Readable := by
  simp only [ofJson, bind_eq_ok_iff] at h
  -- One field after the other has been decoded; only those with types and names are kept.
  obtain ⟨r, -, _, -, _, hret, _, hparams, _, hfails, _, -, _, -, _, -, h⟩ := h
  obtain rfl := Except.ok.inj h
  have htype := fun v t => readable_of_decodeType (v := v) (t := t)
  have hname := fun v n => wellFormed_of_decodeName (v := v) (n := n)
  exact {
    returnType := r.of_optional (fun _ _ => of_decodeOption htype) (by simp) hret
    parameters := r.of_optional (fun _ _ => of_decodeList htype) (by simp) hparams
    failures := r.of_optional (fun _ _ => of_decodeList hname) (by simp) hfails }

theorem FieldDecl.readable_of_ofJson {v : Json} {f : FieldDecl} (h : ofJson v = .ok f) :
    f.type.Readable := by
  simp only [ofJson, bind_eq_ok_iff] at h
  obtain ⟨r, -, _, -, _, htype, _, -, _, -, h⟩ := h
  obtain rfl := Except.ok.inj h
  exact r.of_required (fun _ _ => readable_of_decodeType) htype

theorem TypeDecl.readable_of_ofJson {v : Json} {d : TypeDecl} (h : ofJson v = .ok d) :
    d.Readable := by
  simp only [ofJson, bind_eq_ok_iff] at h
  obtain ⟨r, -, _, hname, _, -, _, -, _, -, _, hsuper, _, hinterfaces, _, hmethods, _, hfields,
    _, -, h⟩ := h
  obtain rfl := Except.ok.inj h
  have htype := fun v t => readable_of_decodeType (v := v) (t := t)
  have hmethod := fun v m => MethodDecl.readable_of_ofJson (v := v) (m := m)
  have hfield := fun v f => FieldDecl.readable_of_ofJson (v := v) (f := f)
  exact {
    name := r.of_required (fun _ _ => wellFormed_of_decodeName) hname
    superclass := r.of_optional (fun _ _ => of_decodeOption htype) (by simp) hsuper
    interfaces := r.of_optional (fun _ _ => of_decodeList htype) (by simp) hinterfaces
    methods := r.of_optional (fun _ _ => of_decodeList hmethod) (by simp) hmethods
    fields := r.of_optional (fun _ _ => of_decodeList hfield) (by simp) hfields }

namespace Catalog

theorem mem_insertDecl {d e : TypeDecl} {es : List TypeDecl} (h : e ∈ insertDecl d es) :
    e = d ∨ e ∈ es := by
  induction es with
  | nil => exact .inl (List.mem_singleton.1 h)
  | cons f fs ih =>
    rw [insertDecl] at h
    split at h
    · exact (List.mem_cons.1 h).imp_right (List.mem_cons_of_mem _)
    · rcases List.mem_cons.1 h with rfl | h
      · simp
      · exact (ih h).imp_right (List.mem_cons_of_mem _)

/-- Every declaration of a catalog is one that was put into it. -/
theorem mem_of_mem_ofList {ds : List TypeDecl} {d : TypeDecl} (h : d ∈ (ofList ds).decls) :
    d ∈ ds := by
  refine List.foldlRecOn (motive := fun c => d ∈ c.decls → d ∈ ds) ds insert ?_ ?_ h
  · intro hd
    exact absurd hd (by simp [empty])
  · intro c hc e he hd
    rcases mem_insertDecl hd with rfl | hd
    · exact he
    · exact hc hd

/-- A catalog that has been read is readable. -/
theorem readable_of_parse {text : String} {c : Catalog} (h : parse text = .ok c) :
    c.Readable := by
  unfold parse decodeDocument at h
  split at h
  · obtain ⟨r, -, h⟩ := bind_eq_ok_iff.1 h
    obtain ⟨ds, hds, h⟩ := bind_eq_ok_iff.1 h
    obtain rfl := Except.ok.inj h
    have hall : ∀ d ∈ ds, d.Readable := r.of_required
      (fun _ _ => of_decodeList fun _ _ => TypeDecl.readable_of_ofJson) hds
    exact fun d hd => hall d (mem_of_mem_ofList hd)
  · exact absurd h (by simp)

end Catalog
end AssertionWriter
