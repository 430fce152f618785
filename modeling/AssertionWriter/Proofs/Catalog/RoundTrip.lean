/-
  AssertionWriter.Proofs.Catalog.RoundTrip

  Writing a catalog and reading it again. Names come back as they are; a type does unless
  it is a raw type whose name looks like a variable, or an array of one, which a malformed
  signature can give. The signature of such a type is read as the variable.
-/
import AssertionWriter.Entries
import AssertionWriter.Proofs.Catalog.Readable
import AssertionWriter.Proofs.Json.RoundTrip

namespace AssertionWriter

/-! ## Declarations that are read again -/

/-- The types that a method mentions. -/
def MethodDecl.usages (m : MethodDecl) : List JavaType := m.returnType.toList ++ m.parameters

/-- The types that a declaration mentions. -/
def TypeDecl.usages (d : TypeDecl) : List JavaType :=
  d.superclass.toList ++ d.interfaces ++ d.methods.flatMap MethodDecl.usages ++
    d.fields.map (·.type)

/-- The types that the declarations of a catalog mention. -/
def Catalog.usages (c : Catalog) : List JavaType := c.decls.flatMap TypeDecl.usages

/-- A method as it is read again. -/
def MethodDecl.reread (m : MethodDecl) : MethodDecl :=
  { m with
    returnType := m.returnType.map JavaType.reread
    parameters := m.parameters.map JavaType.reread }

/-- A field as it is read again. -/
def FieldDecl.reread (f : FieldDecl) : FieldDecl := { f with type := f.type.reread }

/-- A declaration as it is read again. -/
def TypeDecl.reread (d : TypeDecl) : TypeDecl :=
  { d with
    superclass := d.superclass.map JavaType.reread
    interfaces := d.interfaces.map JavaType.reread
    methods := d.methods.map MethodDecl.reread
    fields := d.fields.map FieldDecl.reread }

theorem map_eq_self_iff {α : Type} {f : α → α} {xs : List α} :
    xs.map f = xs ↔ ∀ x ∈ xs, f x = x := by
  induction xs with
  | nil => simp
  | cons x xs ih => simp [ih]

theorem optionMap_eq_self_iff {α : Type} {f : α → α} {o : Option α} :
    o.map f = o ↔ ∀ a ∈ o.toList, f a = a := by
  cases o <;> simp

theorem MethodDecl.reread_eq_iff {m : MethodDecl} :
    m.reread = m ↔ ∀ t ∈ m.usages, t.reread = t := by
  obtain ⟨name, returnType, parameters, failures, visibility, isStatic, markers⟩ := m
  simp only [reread, usages, MethodDecl.mk.injEq, true_and, and_true, List.mem_append,
    optionMap_eq_self_iff, map_eq_self_iff, or_imp, forall_and]

theorem FieldDecl.reread_eq_iff {f : FieldDecl} : f.reread = f ↔ f.type.reread = f.type := by
  obtain ⟨name, type, visibility, isStatic⟩ := f
  simp [reread]

/-- A declaration is read as itself just if all its types are. -/
theorem TypeDecl.reread_eq_iff {d : TypeDecl} : d.reread = d ↔ ∀ t ∈ d.usages, t.reread = t := by
  obtain ⟨name, kind, visibility, typeParameters, superclass, interfaces, methods, fields,
    markers⟩ := d
  have hmethods : (∀ m ∈ methods, m.reread = m) ↔
      ∀ t ∈ methods.flatMap MethodDecl.usages, t.reread = t := by
    simp only [MethodDecl.reread_eq_iff, List.mem_flatMap]
    exact ⟨fun h t ⟨m, hm, ht⟩ => h m hm t ht, fun h m hm t ht => h t ⟨m, hm, ht⟩⟩
  have hfields : (∀ f ∈ fields, f.reread = f) ↔
      ∀ t ∈ fields.map (·.type), t.reread = t := by
    simp [FieldDecl.reread_eq_iff]
  simp only [reread, usages, TypeDecl.mk.injEq, true_and, and_true, List.mem_append,
    optionMap_eq_self_iff, map_eq_self_iff, or_imp, forall_and, hmethods, hfields, and_assoc]

/-! ## Reading what has been written -/

namespace Json

/-- A list is read back if all its items are. -/
theorem decodeList_map {α β : Type} {decode : Decoder β} {encode : α → Json} {f : α → β}
    {xs : List α} (h : ∀ x ∈ xs, decode (encode x) = .ok (f x)) :
    decodeList decode (.array (xs.map encode)) = .ok (xs.map f) := by
  rw [decodeList]
  induction xs with
  | nil => rfl
  | cons x xs ih =>
    have htail := ih fun y hy => h y (List.mem_cons_of_mem _ hy)
    rw [List.map_cons, List.mapM_cons, h x (by simp), htail]
    rfl

theorem decodeList_ofTexts (texts : List String) :
    decodeList decodeText (.ofTexts texts) = .ok texts := by
  have h : decodeList decodeText (.array (texts.map string)) = .ok (texts.map id) :=
    decodeList_map fun _ _ => rfl
  rwa [List.map_id] at h

theorem decodeText_string (s : String) : decodeText (.string s) = .ok s := rfl

theorem decodeBool_bool (b : Bool) : decodeBool (.bool b) = .ok b := rfl

theorem decodeName_toJson {n : QualifiedName} (h : n.WellFormed) :
    decodeName n.toJson = .ok n := by
  rw [decodeName, QualifiedName.toJson, decodeText_string]
  simp only [bind, Except.bind, QualifiedName.parse?_binary h]
  rfl

theorem decodeType_toJson {t : JavaType} (h : t.Readable) : decodeType t.toJson = .ok t.reread := by
  rw [decodeType, JavaType.toJson, decodeText_string]
  simp only [bind, Except.bind, h.parseLenient_signature]
  rfl

theorem decodeOption_optionalType {o : Option JavaType} (h : ∀ t ∈ o, t.Readable) :
    decodeOption decodeType (optionalType o) = .ok (o.map JavaType.reread) := by
  cases o with
  | none => rfl
  | some t =>
    show some <$> decodeType t.toJson = .ok (some t.reread)
    rw [decodeType_toJson (h t rfl)]
    rfl

end Json

open Json

theorem DeclKind.decode_word (k : DeclKind) :
    decodeVariant DeclKind.variants (.string k.word) = .ok k := by
  have hlookup : DeclKind.variants.lookup k.word = some k := by cases k <;> decide
  rw [decodeVariant, variant, hlookup]

theorem Visibility.decode_word (v : Visibility) :
    decodeVariant Visibility.variants (.string v.word) = .ok v := by
  have hlookup : Visibility.variants.lookup v.word = some v := by cases v <;> decide
  rw [decodeVariant, variant, hlookup]

theorem MethodDecl.ofJson_toJson {m : MethodDecl} (h : m.Readable) :
    ofJson m.toJson = .ok m.reread := by
  have hret := decodeOption_optionalType h.returnType
  have hparams := decodeList_map fun t ht => decodeType_toJson (h.parameters t ht)
  have hfails := decodeList_map fun n hn => decodeName_toJson (h.failures n hn)
  simp [ofJson, toJson, record, Record.ofFields, firstDuplicate?, Record.required, Record.optional,
    bind, Except.bind, pure, Except.pure, lookup_cons, decodeText_string, decodeBool_bool,
    decodeList_ofTexts, Visibility.decode_word, hret, hparams, hfails, reread]

theorem FieldDecl.ofJson_toJson {f : FieldDecl} (h : f.type.Readable) :
    ofJson f.toJson = .ok f.reread := by
  have htype := decodeType_toJson h
  simp [ofJson, toJson, record, Record.ofFields, firstDuplicate?, Record.required, Record.optional,
    bind, Except.bind, pure, Except.pure, lookup_cons, decodeText_string, decodeBool_bool,
    Visibility.decode_word, htype, reread]

theorem TypeDecl.ofJson_toJson {d : TypeDecl} (h : d.Readable) :
    ofJson d.toJson = .ok d.reread := by
  have hname := decodeName_toJson h.name
  have hsuper := decodeOption_optionalType h.superclass
  have hinterfaces := decodeList_map fun t ht => decodeType_toJson (h.interfaces t ht)
  have hmethods := decodeList_map fun m hm => MethodDecl.ofJson_toJson (h.methods m hm)
  have hfields := decodeList_map fun f hf => FieldDecl.ofJson_toJson (h.fields f hf)
  simp [ofJson, toJson, record, Record.ofFields, firstDuplicate?, Record.required, Record.optional,
    bind, Except.bind, pure, Except.pure, lookup_cons, decodeList_ofTexts, DeclKind.decode_word,
    Visibility.decode_word, hname, hsuper, hinterfaces, hmethods, hfields, reread]

/-! ## Plain documents -/

theorem arePlain_map {α : Type} {f : α → Json} (xs : List α) (h : ∀ x ∈ xs, (f x).isPlain = true) :
    arePlain (xs.map f) = true := by
  induction xs with
  | nil => rfl
  | cons x xs ih =>
    rw [List.map_cons, arePlain, h x (by simp), ih fun y hy => h y (List.mem_cons_of_mem _ hy)]
    rfl

theorem isPlain_ofTexts (texts : List String) : (Json.ofTexts texts).isPlain = true := by
  rw [ofTexts, isPlain]
  exact arePlain_map texts fun _ _ => rfl

theorem isPlain_optionalType (o : Option JavaType) : (optionalType o).isPlain = true := by
  cases o <;> rfl

theorem MethodDecl.isPlain_toJson (m : MethodDecl) : m.toJson.isPlain = true := by
  have hparams := arePlain_map (f := JavaType.toJson) m.parameters fun _ _ => rfl
  have hfails := arePlain_map (f := QualifiedName.toJson) m.failures fun _ _ => rfl
  simp [toJson, isPlain, havePlainValues, isPlain_optionalType, isPlain_ofTexts, hparams, hfails]

theorem FieldDecl.isPlain_toJson (f : FieldDecl) : f.toJson.isPlain = true := rfl

theorem TypeDecl.isPlain_toJson (d : TypeDecl) : d.toJson.isPlain = true := by
  have hname : d.name.toJson.isPlain = true := rfl
  have hinterfaces := arePlain_map (f := JavaType.toJson) d.interfaces fun _ _ => rfl
  have hmethods := arePlain_map d.methods fun m _ => m.isPlain_toJson
  have hfields := arePlain_map d.fields fun f _ => f.isPlain_toJson
  simp [toJson, isPlain, havePlainValues, isPlain_optionalType, isPlain_ofTexts, hname,
    hinterfaces, hmethods, hfields]

/-! ## Catalogs -/

namespace Catalog

theorem isPlain_toJson (c : Catalog) : c.toJson.isPlain = true := by
  have hdecls := arePlain_map c.decls fun d _ => d.isPlain_toJson
  simp [toJson, isPlain, havePlainValues, hdecls]

theorem insertDecl_of_not_mem {d : TypeDecl} {es : List TypeDecl} (h : d.name ∉ es.map (·.name)) :
    insertDecl d es = es ++ [d] := by
  induction es with
  | nil => rfl
  | cons e es ih =>
    rw [List.map_cons, List.mem_cons, not_or] at h
    rw [insertDecl, if_neg (Ne.symm h.1), ih h.2, List.cons_append]

/-- Declarations of different names stand in a catalog as they were put in. -/
theorem decls_ofList {ds : List TypeDecl} (h : (ds.map (·.name)).Nodup) :
    (ofList ds).decls = ds := by
  -- Each name is new to the declarations before it, so it comes behind them.
  have hfold : ∀ (es : List TypeDecl) (c : Catalog), ((c.decls ++ es).map (·.name)).Nodup →
      (es.foldl insert c).decls = c.decls ++ es := by
    intro es
    induction es with
    | nil => intro c _; simp
    | cons e es ih =>
      intro c hnodup
      have hnew : e.name ∉ c.decls.map (·.name) := by
        rw [List.map_append, List.nodup_append] at hnodup
        intro hmem
        exact hnodup.2.2 _ hmem _ (by simp) rfl
      have hinsert : (c.insert e).decls = c.decls ++ [e] := insertDecl_of_not_mem hnew
      have hrest := ih (c.insert e) (by simpa [hinsert] using hnodup)
      rw [List.foldl_cons, hrest, hinsert]
      simp
  exact hfold ds empty h

theorem ext {c d : Catalog} (h : c.decls = d.decls) : c = d := by
  cases c
  cases d
  cases h
  rfl

/-- What a readable catalog becomes when it is written and read again. -/
theorem parse_toText_of_readable {c : Catalog} (h : c.Readable) :
    ∃ c', parse c.toText = .ok c' ∧ c'.decls = c.decls.map TypeDecl.reread := by
  have hdecls := decodeList_map fun d hd => TypeDecl.ofJson_toJson (h d hd)
  have hjson : ofJson c.toJson = .ok (ofList (c.decls.map TypeDecl.reread)) := by
    simp [ofJson, toJson, record, Record.ofFields, firstDuplicate?, Record.required, lookup_cons,
      bind, Except.bind, pure, Except.pure, hdecls]
  -- Reading again changes no name, so no declaration takes the place of another one.
  have hnames : ((c.decls.map TypeDecl.reread).map (·.name)).Nodup := by
    rw [List.map_map]
    exact c.distinct
  refine ⟨_, ?_, decls_ofList hnames⟩
  rw [parse, decodeDocument, toText, parse?_pretty c.isPlain_toJson]
  exact hjson

/-- A readable catalog is read from its own text, if that spells all its types. -/
theorem parse_toText_of_reread {c : Catalog} (h : c.Readable)
    (hreread : c.decls.map TypeDecl.reread = c.decls) : parse c.toText = .ok c := by
  obtain ⟨c', hc', hdecls⟩ := parse_toText_of_readable h
  rw [hc', ext (hdecls.trans hreread)]

/-- A catalog that has been read can be written and read again. The names are the same, in the
    same order; the catalog is the same just if no type in it is a raw type, or an array of one,
    whose name looks like a variable. -/
theorem parse_toText {text : String} {c : Catalog} (h : parse text = .ok c) :
    ∃ c', parse c.toText = .ok c' ∧ c'.names = c.names ∧
      c'.decls = c.decls.map TypeDecl.reread ∧
      (c' = c ↔ ∀ t ∈ c.usages, t.readsAsVariable = false) := by
  obtain ⟨c', hc', hdecls⟩ := parse_toText_of_readable (readable_of_parse h)
  refine ⟨c', hc', ?_, hdecls, ?_⟩
  · rw [names, names, hdecls, List.map_map]
    rfl
  · have hsame : c' = c ↔ c.decls.map TypeDecl.reread = c.decls := by
      rw [← hdecls]
      exact ⟨congrArg decls, ext⟩
    simp only [hsame, map_eq_self_iff, TypeDecl.reread_eq_iff, JavaType.reread_eq_iff, usages,
      List.mem_flatMap]
    exact ⟨fun h t ⟨d, hd, ht⟩ => h d hd t ht, fun h d hd t ht => h t ⟨d, hd, ht⟩⟩

/-- A variable with arguments is no type, and is taken for a raw type. -/
theorem parseLenient_rawVariable :
    JavaType.parseLenient "T<a.C>" = .ok (.raw ⟨"", [], "T"⟩) := by
  -- The variable is read, and the arguments are left.
  have hident : JavaType.ReadsIdent (['T'] ++ "<a.C>".toList) ['T'] "<a.C>".toList :=
    JavaType.readsIdent_append (by decide) (List.all_eq_true.1 (by decide))
      (by decide)
  have hread : JavaType.Reads "T<a.C>".toList (.typeVar "T") "<a.C>".toList :=
    .typeVar (JavaType.not_leads_of_ne (by decide) (by decide) _ _) hident (by decide)
      (.none (JavaType.not_leads_of_ne (by decide) (by decide) _ _))
  obtain ⟨x, hx, hrest⟩ := hread.readType_eq
  have hparse : ∃ e, JavaType.parse "T<a.C>" = .error e := by
    simp only [JavaType.parse, hx, hrest]
    exact ⟨_, rfl⟩
  have hraw : JavaType.rawType? "T<a.C>" = some (.raw ⟨"", [], "T"⟩) := by
    have hstrip : JavaType.stripBrackets (Text.trim "T<a.C>".toList).reverse =
        ((Text.trim "T<a.C>".toList).reverse, 0) := by
      have hhead : (Text.trim "T<a.C>".toList).reverse.head? = some '>' := by decide
      rw [JavaType.stripBrackets]
      intro r hr
      rw [hr] at hhead
      simp at hhead
    have hname : QualifiedName.parse? (String.ofList
        ((Text.trim "T<a.C>".toList).reverse.reverse.takeWhile (· ≠ '<'))) =
        some ⟨"", [], "T"⟩ := by
      decide
    rw [JavaType.rawType?, hstrip]
    simp only [hname]
    rfl
  obtain ⟨e, he⟩ := hparse
  rw [JavaType.parseLenient, he]
  simp only [hraw]

/-- A class whose superclass is the raw type `T`. -/
def rawVariable : TypeDecl where
  name := ⟨"a", [], "B"⟩
  superclass := some (.raw ⟨"", [], "T"⟩)

/-- A document in which the superclass is malformed. -/
def rawVariableText : String :=
  "\x7b\"types\":[\x7b\"name\":\"a.B\",\"supertype\":\"T<a.C>\"\x7d]\x7d"

theorem parse_rawVariableText : parse rawVariableText = .ok (ofList [rawVariable]) := by
  have htokens : tokens? rawVariableText.toList =
      some [.openBrace, .string "types", .colon, .openBracket, .openBrace, .string "name", .colon,
        .string "a.B", .comma, .string "supertype", .colon, .string "T<a.C>", .closeBrace,
        .closeBracket, .closeBrace] := by
    decide
  have hjson : parse? rawVariableText = some (.object [("types", .array [.object
      [("name", .string "a.B"), ("supertype", .string "T<a.C>")]])]) := by
    rw [parse?, htokens]
    rfl
  have hname : decodeName (.string "a.B") = .ok ⟨"a", [], "B"⟩ := by
    have hparse : QualifiedName.parse? "a.B" = some ⟨"a", [], "B"⟩ := by decide
    simp only [decodeName, decodeText_string, bind, Except.bind, hparse]
    rfl
  have hsuper : decodeType (.string "T<a.C>") = .ok (.raw ⟨"", [], "T"⟩) := by
    simp only [decodeType, decodeText_string, bind, Except.bind, parseLenient_rawVariable]
    rfl
  have hdecl : TypeDecl.ofJson (.object [("name", .string "a.B"),
      ("supertype", .string "T<a.C>")]) = .ok rawVariable := by
    simp [TypeDecl.ofJson, record, Record.ofFields, firstDuplicate?, Record.required,
      Record.optional, bind, Except.bind, pure, Except.pure, lookup_cons, decodeOption, Functor.map,
      Except.map, hname, hsuper, rawVariable]
  rw [parse, decodeDocument, hjson]
  simp [ofJson, record, Record.ofFields, firstDuplicate?, Record.required, lookup_cons, decodeList,
    bind, Except.bind, pure, Except.pure, hdecl]

/-- The catalog of that document comes back with the variable as the superclass. -/
theorem find?_parse_toText_ne :
    parse rawVariableText = .ok (ofList [rawVariable]) ∧
      ∃ c', parse (ofList [rawVariable]).toText = .ok c' ∧
        c'.find? rawVariable.name ≠ (ofList [rawVariable]).find? rawVariable.name := by
  have hread := parse_rawVariableText
  obtain ⟨c', hc', hdecls⟩ := parse_toText_of_readable (readable_of_parse hread)
  refine ⟨hread, c', hc', ?_⟩
  rw [find?, hdecls]
  decide

theorem parse_toText_rawVariable :
    parse rawVariableText = .ok (ofList [rawVariable]) ∧
      ∃ c', parse (ofList [rawVariable]).toText = .ok c' ∧
        c'.names = (ofList [rawVariable]).names ∧
        c'.decls = (ofList [rawVariable]).decls.map TypeDecl.reread ∧
        (c' = ofList [rawVariable] ↔
          ∀ t ∈ (ofList [rawVariable]).usages, t.readsAsVariable = false) :=
  ⟨parse_rawVariableText, parse_toText parse_rawVariableText⟩

end Catalog
end AssertionWriter
