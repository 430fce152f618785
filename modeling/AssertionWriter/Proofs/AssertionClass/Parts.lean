/-
  AssertionWriter.Proofs.AssertionClass.Parts

  The source of a class, part by part. Its holes are filled in the whole text at once, and
  the imports are told from all of it. But every part is made of sealed lines, so no token
  reaches from one part into the next; and only the frame has a hole for the imports. What
  comes out is the frame and the methods of each property, each filled on its own.
-/
import AssertionWriter.Proofs.Generation.Sources
import AssertionWriter.Proofs.Surface.Fields

namespace AssertionWriter
open Template Text

namespace Template

/-! ## Texts of sealed lines -/

/-- A text is that of a template whose lines are sealed. -/
structure IsTextOf (l : Layout) (text : String) : Prop where
  sealed : ∀ line ∈ l, isSealed '$' '\x7b' false line = true
  toList_eq : text.toList = joined l.segments

variable {l l' : Layout} {s t text : String} {f : Filling}

theorem IsTextOf.append (hs : IsTextOf l s) (ht : IsTextOf l' t) : IsTextOf (l ++ l') (s ++ t) where
  sealed := List.forall_mem_append.2 ⟨hs.sealed, ht.sealed⟩
  toList_eq := by
    rw [String.toList_append, hs.toList_eq, ht.toList_eq, Layout.segments_append, joined_append]

theorem IsTextOf.fill (h : IsTextOf l text) (hf : f.Fits) :
    IsTextOf (l.fillBy f.get?) (f.fill text) where
  sealed line hline := by
    obtain ⟨line, hmem, rfl⟩ := List.mem_map.1 hline
    exact isSealed_fillBy (fun k v hv => (hf.get? k v hv).1) (h.sealed line hmem)
  toList_eq := hf.toList_fill h.sealed h.toList_eq

/-- Two texts are filled on their own. -/
theorem IsTextOf.fill_append (hs : IsTextOf l s) (ht : IsTextOf l' t) (hf : f.Fits) :
    f.fill (s ++ t) = f.fill s ++ f.fill t := by
  rw [← String.toList_inj, ((hs.append ht).fill hf).toList_eq, Layout.fillBy_append]
  exact ((hs.fill hf).append (ht.fill hf)).toList_eq.symm

/-- Nothing is filled where there is no hole for it. -/
theorem IsTextOf.fill_eq_self (h : IsTextOf l text) (hf : f.Fits)
    (hnone : ∀ k ∈ holesOf l.segments, f.get? k = none) : f.fill text = text := by
  have hid : l.fillBy (fun _ => none) = l := by
    have hsegment : Segment.fillBy (fun _ => none) = id := by
      funext g
      cases g <;> rfl
    rw [Layout.fillBy, hsegment]
    simp
  rw [← String.toList_inj, (h.fill hf).toList_eq, Layout.fillBy_congr hnone, hid, h.toList_eq]

/-- Any number of texts are filled on their own. -/
theorem IsTextOf.fill_append_join (hs : IsTextOf l s) {parts : List String}
    (h : ∀ part ∈ parts, ∃ l, IsTextOf l part) (hf : f.Fits) :
    f.fill (s ++ String.join parts) = f.fill s ++ String.join (parts.map f.fill) := by
  induction parts generalizing l s with
  | nil => simp
  | cons part parts ih =>
    have hrest : ∀ q ∈ parts, ∃ l, IsTextOf l q := fun q hq => h q (List.mem_cons_of_mem _ hq)
    obtain ⟨l', hl'⟩ := h part (by simp)
    rw [String.join_cons, List.map_cons, String.join_cons, ← String.append_assoc,
      ih (hs.append hl') hrest, hs.fill_append hl' hf, String.append_assoc]

end Template

namespace Surface

/-! ## The order of properties -/

/-- The properties under names are in ascending order of their own names. -/
theorem pairwise_names {m : NameMap Property} (h : ∀ e ∈ m.entries, e.2.name = e.1) :
    (m.values.map (·.name)).Pairwise (· < ·) := by
  rw [map_name_values h]
  exact List.pairwise_map.2 m.ascending

/-- The accessors come first, and then the fields that are named like none of them; both are in
    ascending order of their names. -/
theorem IsDescribed.properties_eq {c : Catalog} {s : Surface} (h : s.IsDescribed c) :
    s.properties = s.accessors.values ++
        s.fields.values.filter (fun p => p.name ∉ s.accessors.values.map (·.name)) ∧
      (s.accessors.values.map (·.name)).Pairwise (· < ·) ∧
      (s.fields.values.map (·.name)).Pairwise (· < ·) := by
  obtain ⟨policy, n, hs⟩ := h
  obtain ⟨d, hd, -, rfl⟩ := describe_eq_ok hs
  have haccessors : ∀ e ∈ (ofDeclaration c policy d).accessors.entries, e.2.name = e.1 := by
    rw [accessors_eq (Catalog.find?_eq_some_iff.2 ⟨hd, rfl⟩)]
    exact fun e => name_of_mem_collected
  refine ⟨?_, pairwise_names haccessors, pairwise_names fun e => name_of_mem_fields⟩
  refine congrArg (_ ++ ·) (List.filter_congr fun p _ => ?_)
  simp [map_name_values haccessors, hasAccessor, NameMap.mem_keys_iff]

end Surface

namespace ClassWriter

variable {w : ClassWriter} {c : Catalog} {s : Surface}

/-! ## Parts of a class -/

/-- Methods that leave no hole but those that every class fills. -/
def IsPart (part : String) : Prop :=
  ∃ l, IsTextOf l part ∧ ∀ h ∈ holesOf l.segments, h ∈ Role.classOwned

theorem isPart_methods {p : Property} (h : p.IsInline) (s : Surface) (package : String) :
    IsPart ((p.filling package).fill (p.role s).body) :=
  ⟨p.methodLines s package,
    ⟨fun line hline => (h.isSealed_methodLines s package line hline).sealed,
      h.toList_fill s package⟩,
    fun _ => Property.mem_holesOf_methodLines⟩

theorem IsPart.exists_isTextOf {part : String} (h : IsPart part) : ∃ l, IsTextOf l part :=
  h.imp fun _ h => h.1

theorem isTextOf_classEnd : IsTextOf [[.text "\x7d"]] classEnd where
  sealed line hline := by
    rw [List.mem_singleton.1 hline]
    decide
  toList_eq := rfl

theorem fill_classEnd {f : Filling} (hf : f.Fits) : f.fill classEnd = classEnd :=
  isTextOf_classEnd.fill_eq_self hf fun k hk =>
    absurd hk (by simp [mem_holesOf, Layout.segments])

/-- No methods have a hole for the imports, whatever else is filled before. -/
theorem IsPart.fill_imports {part : String} (h : IsPart part) {f : Filling} (hf : f.Fits)
    {imports : String} (himports : (Filling.ofList [(.imports, imports)]).Fits) :
    (Filling.ofList [(.imports, imports)]).fill (f.fill part) = f.fill part := by
  obtain ⟨l, hl, hholes⟩ := h
  -- A hole that the first filling leaves was in the part before, so it is none for imports.
  refine (hl.fill hf).fill_eq_self himports fun k hk => ?_
  rw [Layout.segments_fillBy, mem_holesOf_fillBy] at hk
  rw [Filling.get?_ofList_eq_none_iff]
  intro hmem
  have hk' : k = .imports := List.mem_singleton.1 hmem
  exact absurd (hk' ▸ hholes k hk.1) (by decide)

variable {l : Layout} {frame : String} {methods : List String} {f : Filling}

/-- A body is filled part by part. -/
theorem fill_body (hframe : IsTextOf l frame) (hmethods : ∀ part ∈ methods, ∃ l, IsTextOf l part)
    (hf : f.Fits) : f.fill (frame ++ String.join methods ++ classEnd) =
      f.fill frame ++ String.join (methods.map f.fill) ++ classEnd := by
  have hparts : ∀ part ∈ methods ++ [classEnd], ∃ l, IsTextOf l part :=
    List.forall_mem_append.2 ⟨hmethods, List.forall_mem_singleton.2 ⟨_, isTextOf_classEnd⟩⟩
  have hjoin := hframe.fill_append_join hparts hf
  have hlast : String.join [classEnd] = classEnd := by simp
  rwa [List.map_append, String.join_append, String.join_append, List.map_singleton,
    fill_classEnd hf, hlast, ← String.append_assoc, ← String.append_assoc] at hjoin

/-- The imports go into the frame of a body whose other holes are filled. -/
theorem fill_imports_body (hframe : IsTextOf l frame) (hmethods : ∀ part ∈ methods, IsPart part)
    (hf : f.Fits) {imports : String} (himports : (Filling.ofList [(.imports, imports)]).Fits) :
    (Filling.ofList [(.imports, imports)]).fill
        (f.fill (frame ++ String.join methods ++ classEnd)) =
      (Filling.ofList [(.imports, imports)]).fill (f.fill frame) ++
        String.join (methods.map f.fill) ++ classEnd := by
  have hfilled : ∀ part ∈ methods.map f.fill, ∃ l, IsTextOf l part := by
    intro part hpart
    obtain ⟨q, hq, rfl⟩ := List.mem_map.1 hpart
    obtain ⟨l, hl⟩ := (hmethods q hq).exists_isTextOf
    exact ⟨_, hl.fill hf⟩
  have hkeep : (methods.map f.fill).map (Filling.ofList [(.imports, imports)]).fill =
      methods.map f.fill := by
    rw [List.map_map]
    exact List.map_congr_left fun part hpart => (hmethods part hpart).fill_imports hf himports
  rw [fill_body hframe (fun part hpart => (hmethods part hpart).exists_isTextOf) hf,
    fill_body (hframe.fill hf) hfilled himports, hkeep]

/-- The source of a class is its frame, with the holes of the class and those for the imports
    filled, and then the methods of each property, with the holes of the class filled, in the order
    of the properties; and the end of the class. -/
theorem flat_eq_append {text : String} (hc : Catalog.parse text = .ok c)
    (hi : c.hasIdentifiers = true) (hw : w.IsDefault) (hs : s.IsDescribed c) :
    ∃ (frame : String) (methods : List String),
      w.frame s .assertClass = .ok frame ∧
      s.properties.mapM (w.methods s) = .ok methods ∧
      (let fill := (w.classFilling s (concreteEntries s)).fill
       let imports := w.importsOf s none
         (fill frame ++ String.join (methods.map fill) ++ classEnd)
       w.flat s = .ok ((Filling.ofList [(.imports, imports.render)]).fill (fill frame) ++
         String.join (methods.map fill) ++ classEnd)) ∧
      s.properties = s.accessors.values ++
        s.fields.values.filter (fun p => p.name ∉ s.accessors.values.map (·.name)) ∧
      (s.accessors.values.map (·.name)).Pairwise (· < ·) ∧
      (s.fields.values.map (·.name)).Pairwise (· < ·) := by
  have hr := Catalog.readable_of_parse hc
  have hinline := hs.isInline hr hi
  have hfits := hw.fits_classFilling hinline (areEntries_concrete (r := .assertClass) hinline (by decide))
  obtain ⟨f, hf, -, -, hlayout, -⟩ :=
    exists_frame_of_adaptSuperclass s (r := .assertClass) (by decide)
  -- With or without a package and a natural order, the frame is made of sealed lines.
  have hframe : IsTextOf _ (adaptPackage (s.targetPackage w.package)
      (adaptSuperclass s Role.assertClass.body)) :=
    ⟨hf.isSealed_of_mem, hf.toList_adaptPackage hlayout (s.targetPackage w.package)⟩
  have hmethods : ∀ part ∈ s.properties.map fun p =>
      (p.filling (s.targetPackage w.package)).fill (p.role s).body, IsPart part := by
    intro part hpart
    obtain ⟨p, hp, rfl⟩ := List.mem_map.1 hpart
    exact isPart_methods (hinline.properties p hp) s _
  refine ⟨_, _, hw.frame_eq_ok s .assertClass, hw.mapM_methods s s.properties, ?_,
    hs.properties_eq⟩
  have hparent : ∀ name ∈ (none : Option String), Inline name := nofun
  dsimp only
  rw [← fill_body hframe (fun part hpart => (hmethods part hpart).exists_isTextOf) hfits,
    ← fill_imports_body hframe hmethods hfits (fits_imports hinline hparent _), ← complete_eq, flat,
    body, hw.frame_eq_ok, hw.mapM_methods]
  rfl

theorem readable_shadowing : Surface.shadowing.Readable := by
  have hdisc : QualifiedName.parse? "a.Disc" = some Surface.disc.name := by decide
  have hfigure : QualifiedName.parse? "a.Figure" = some ⟨"a", [], "Figure"⟩ := by decide
  have hint : QualifiedName.parse? "int" = some ⟨"", [], "int"⟩ := by decide
  have hlong : QualifiedName.parse? "long" = some ⟨"", [], "long"⟩ := by decide
  have hobject : QualifiedName.parse? "java.lang.Object" = some .object := by decide
  have hdecls : Surface.shadowing.decls = [Surface.disc, Surface.figure] := by decide
  intro d hd
  rw [hdecls, List.mem_pair] at hd
  rcases hd with rfl | rfl
  · refine ⟨QualifiedName.wellFormed_of_parse? hdisc, ?_, ?_, ?_, ?_⟩
    · simpa [Surface.disc] using JavaType.readable_raw hfigure
    · simp [Surface.disc]
    · intro m hm
      obtain rfl := List.mem_singleton.1 hm
      refine ⟨?_, ?_, ?_⟩
      · simpa [MethodDecl.reading] using JavaType.readable_raw hint
      · simp [MethodDecl.reading]
      · simp [MethodDecl.reading]
    · simpa [Surface.disc] using JavaType.readable_raw hint
  · refine ⟨QualifiedName.wellFormed_of_parse? hfigure, ?_, ?_, ?_, ?_⟩
    · simp [Surface.figure]
    · simp [Surface.figure]
    · simp [Surface.figure]
    · simpa [Surface.figure] using
        ⟨JavaType.readable_raw hlong, JavaType.readable_raw hobject⟩

/-- A class with an accessor, a field that is named like the property of the accessor, and another
    field. -/
theorem flat_eq_append_shadowing :
    let c := Surface.shadowing
    let s := Surface.ofDeclaration c {} Surface.disc
    let w : ClassWriter := ⟨.default, none⟩
    Catalog.parse c.toText = .ok c ∧ c.hasIdentifiers = true ∧ w.IsDefault ∧ s.IsDescribed c ∧
      s.properties.map (·.name) = ["size", "label"] ∧
      s.fields.values.map (·.name) = ["label", "size"] ∧
      ∃ (frame : String) (methods : List String),
        w.frame s .assertClass = .ok frame ∧
        s.properties.mapM (w.methods s) = .ok methods ∧
        (let fill := (w.classFilling s (concreteEntries s)).fill
         let imports := w.importsOf s none
           (fill frame ++ String.join (methods.map fill) ++ classEnd)
         w.flat s = .ok ((Filling.ofList [(.imports, imports.render)]).fill (fill frame) ++
           String.join (methods.map fill) ++ classEnd)) := by
  intro c s w
  have hc : Catalog.parse c.toText = .ok c :=
    Catalog.parse_toText_of_reread readable_shadowing (by decide)
  have hi : c.hasIdentifiers = true := by decide
  have hw : w.IsDefault := ⟨rfl, nofun⟩
  have hfind : c.find? Surface.disc.name = some Surface.disc := by decide
  have hs : s.IsDescribed c :=
    ⟨{}, Surface.disc.name, Surface.describe_eq_ok_iff.2 ⟨_, hfind, rfl, rfl⟩⟩
  obtain ⟨frame, methods, hframe, hmethods, hflat, -⟩ := flat_eq_append hc hi hw hs
  exact ⟨hc, hi, hw, hs, by decide +kernel, by decide +kernel, frame, methods, hframe, hmethods,
    hflat⟩

end ClassWriter
end AssertionWriter
