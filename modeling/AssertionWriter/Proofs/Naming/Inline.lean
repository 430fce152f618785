/-
  AssertionWriter.Proofs.Naming.Inline

  Texts that go into one line of a template and open nothing there: they have no line feed
  and no opening brace. Names are of this kind, and so is what is made from them, by a
  change of case as well as with the words of accessors and predicates.
-/
import AssertionWriter.Naming.Companion
import AssertionWriter.Proofs.Naming.Contrary
import AssertionWriter.Proofs.QualifiedName.Reading

namespace AssertionWriter

namespace Text

/-- Whether a character may stand in an inline text. -/
def isInline (c : Char) : Bool := c ≠ '\x7b' && c ≠ '\n'

end Text

open Text

/-- A text without line feeds and opening braces. -/
def Inline (s : String) : Prop := ∀ c ∈ s.toList, isInline c = true

instance (s : String) : Decidable (Inline s) :=
  decidable_of_iff (s.toList.all isInline = true) List.all_eq_true

namespace Inline

theorem ofList {cs : List Char} : Inline (String.ofList cs) ↔ ∀ c ∈ cs, isInline c = true := by
  rw [Inline, String.toList_ofList]

theorem append {s t : String} (hs : Inline s) (ht : Inline t) : Inline (s ++ t) := by
  intro c hc
  rw [String.toList_append, List.mem_append] at hc
  exact hc.elim (hs c) (ht c)

theorem join {ss : List String} (h : ∀ s ∈ ss, Inline s) : Inline (String.join ss) := by
  intro c hc
  rw [String.toList_join, List.mem_flatMap] at hc
  obtain ⟨s, hs, hc⟩ := hc
  exact h s hs c hc

theorem intercalate {sep : String} {ss : List String} (hsep : Inline sep)
    (h : ∀ s ∈ ss, Inline s) : Inline (sep.intercalate ss) := by
  intro c hc
  rw [String.toList_intercalate] at hc
  rcases mem_intercalate hc with hc | ⟨t, ht, hc⟩
  · exact hsep c hc
  · obtain ⟨s, hs, rfl⟩ := List.mem_map.1 ht
    exact h s hs c hc

theorem of_isNameChar {s : String} (h : ∀ c ∈ s.toList, QualifiedName.isNameChar c = true) :
    Inline s := by
  intro c hc
  have hname := h c hc
  rw [isInline, Bool.and_eq_true, decide_eq_true_eq, decide_eq_true_eq]
  constructor
  · rintro rfl
    exact absurd hname (by decide)
  · rintro rfl
    exact absurd hname (by decide)

theorem not_mem {s : String} (h : Inline s) : '\x7b' ∉ s.toList ∧ '\n' ∉ s.toList :=
  ⟨fun hc => absurd (h _ hc) (by decide), fun hc => absurd (h _ hc) (by decide)⟩

end Inline

namespace Text

/-! ## Change of case -/

theorem isInline_of_mem_mapCase {runs : List CaseRun} {sequences : List (Nat × List Nat)}
    (hbrace : missesTables runs sequences '\x7b'.toNat = true)
    (hfeed : missesTables runs sequences '\n'.toNat = true) {x c : Char} (hc : isInline c = true)
    (hx : x ∈ mapCase runs sequences c) : isInline x = true := by
  rw [isInline, Bool.and_eq_true, decide_eq_true_eq, decide_eq_true_eq] at hc ⊢
  constructor
  · rintro rfl
    exact hc.1 (eq_of_mem_mapCase (by decide) hbrace hx).symm
  · rintro rfl
    exact hc.2 (eq_of_mem_mapCase (by decide) hfeed hx).symm

theorem isInline_of_mem_toUpper {x c : Char} (hc : isInline c = true) (hx : x ∈ toUpper c) :
    isInline x = true :=
  isInline_of_mem_mapCase (by decide) (by decide) hc hx

theorem isInline_of_mem_toLower {x c : Char} (hc : isInline c = true) (hx : x ∈ toLower c) :
    isInline x = true :=
  isInline_of_mem_mapCase (by decide) (by decide) hc hx

theorem isInline_of_mem_capitalize {s : List Char} (h : ∀ c ∈ s, isInline c = true) :
    ∀ c ∈ capitalize s, isInline c = true := by
  cases s with
  | nil => exact h
  | cons d ds =>
    intro c hc
    rw [capitalize, List.mem_append] at hc
    rcases hc with hc | hc
    · exact isInline_of_mem_toUpper (h d (by simp)) hc
    · exact h c (List.mem_cons_of_mem _ hc)

theorem isInline_of_mem_uncapitalize {s : List Char} (h : ∀ c ∈ s, isInline c = true) :
    ∀ c ∈ uncapitalize s, isInline c = true := by
  cases s with
  | nil => exact h
  | cons d ds =>
    intro c hc
    rw [uncapitalize, List.mem_append] at hc
    rcases hc with hc | hc
    · exact isInline_of_mem_toLower (h d (by simp)) hc
    · exact h c (List.mem_cons_of_mem _ hc)

end Text

/-! ## Names of members -/

namespace Naming

theorem inline_capitalized {s : String} (h : Inline s) : Inline (capitalized s) :=
  Inline.ofList.2 (isInline_of_mem_capitalize h)

theorem isInline_of_behind? {word : String} {name rest : List Char}
    (hrest : behind? word name = some rest) (h : ∀ c ∈ name, isInline c = true) :
    ∀ c ∈ rest, isInline c = true := by
  obtain ⟨rfl, -⟩ := behind?_eq_some_iff.1 hrest
  exact fun c hc => h c (List.mem_append_right _ hc)

theorem inline_propertyOf {member : String} (h : Inline member) : Inline (propertyOf member) := by
  rw [propertyOf]
  split
  · next rest hrest =>
    have hbehind : ∀ c ∈ rest, isInline c = true := by
      rcases Option.or_eq_some_iff.1 hrest with hget | ⟨-, his⟩
      · exact isInline_of_behind? hget h
      · exact isInline_of_behind? his h
    exact Inline.ofList.2 (isInline_of_mem_uncapitalize hbehind)
  · exact h

/-- The words of a verb, and what a name says behind it. -/
theorem inline_of_predicate? {name rest : List Char} {v : Verb}
    (hv : predicate? name = some (v, rest)) (h : ∀ c ∈ name, isInline c = true) :
    Inline v.opposite ∧ Inline v.prose ∧ Inline v.demand ∧ ∀ c ∈ rest, isInline c = true := by
  obtain ⟨hmem, rfl, -⟩ := predicate?_spec hv
  have hall : (Verb.all.all fun v => decide (Inline v.opposite) && decide (Inline v.prose) &&
      decide (Inline v.demand)) = true := by
    decide
  have hwords := List.all_eq_true.1 hall v hmem
  simp only [Bool.and_eq_true, decide_eq_true_eq] at hwords
  exact ⟨hwords.1.1, hwords.1.2, hwords.2, fun c hc => h c (List.mem_append_right _ hc)⟩

theorem inline_predicateOf {member : String} (h : Inline member) :
    Inline (predicateOf member) := by
  have his : Inline "is" := by decide
  rw [predicateOf]
  split
  · exact h
  · split
    · next rest hrest =>
      exact his.append (Inline.ofList.2 (isInline_of_mem_capitalize (isInline_of_behind? hrest h)))
    · exact his.append (inline_capitalized h)

theorem inline_contrary {predicate : String} (h : Inline predicate) :
    Inline (contrary predicate) := by
  rw [contrary]
  split
  · next v rest hv =>
    obtain ⟨hopposite, -, -, hrest⟩ := inline_of_predicate? hv h
    exact hopposite.append (Inline.ofList.2 hrest)
  · exact Inline.append (by decide) (inline_capitalized h)

theorem inline_inProse {predicate : String} (h : Inline predicate) :
    Inline (inProse predicate) := by
  rw [inProse]
  split
  · next v rest hv =>
    obtain ⟨-, hprose, -, hrest⟩ := inline_of_predicate? hv h
    exact (hprose.append (by decide)).append (Inline.ofList.2 (isInline_of_mem_uncapitalize hrest))
  · exact h

theorem inline_asDemand {predicate : String} (h : Inline predicate) :
    Inline (asDemand predicate) := by
  rw [asDemand]
  split
  · next v rest hv =>
    obtain ⟨-, -, hdemand, hrest⟩ := inline_of_predicate? hv h
    exact (hdemand.append (by decide)).append
      (Inline.ofList.2 (isInline_of_mem_uncapitalize hrest))
  · exact h

theorem inline_parameterName {property : String} (h : Inline property) :
    Inline (parameterName property) := by
  rw [parameterName]
  split
  · exact Inline.append (by decide) (inline_capitalized h)
  · exact h

/-! ## Names of classes -/

theorem mem_of_mem_dropBrackets {s : List Char} {c : Char} (h : c ∈ (dropBrackets s).1) :
    c ∈ s := by
  induction s using dropBrackets.induct with
  | case1 r rest n hr ih =>
    rw [dropBrackets] at h
    exact List.mem_cons_of_mem _ (List.mem_cons_of_mem _ (ih h))
  | case2 r hr =>
    rw [dropBrackets.eq_def] at h
    split at h
    · exact absurd rfl (hr _)
    · exact h

theorem inline_words {s : List Char} (h : ∀ c ∈ s, isInline c = true) :
    Inline (String.ofList ((splitOn '.' s).flatMap capitalize)) := by
  refine Inline.ofList.2 fun c hc => ?_
  obtain ⟨p, hp, hc⟩ := List.mem_flatMap.1 hc
  exact isInline_of_mem_capitalize (fun d hd => h d (mem_splitOn hp d hd).2) c hc

theorem inline_valueAssertClass {type : String} (h : Inline type) :
    Inline (valueAssertClass type) := by
  have hraw : ∀ c ∈ (dropBrackets type.toList.reverse).1.reverse.takeWhile (· ≠ '<'),
      isInline c = true := by
    intro c hc
    have hmem := mem_of_mem_dropBrackets (List.mem_reverse.1 ((List.takeWhile_sublist _).subset hc))
    exact h c (List.mem_reverse.1 hmem)
  have harrays : ∀ n, Inline (String.join (List.replicate n "Array")) := by
    intro n
    refine Inline.join fun s hs => ?_
    rw [List.eq_of_mem_replicate hs]
    decide
  exact ((inline_words hraw).append (harrays _)).append (by decide)

end Naming
end AssertionWriter
