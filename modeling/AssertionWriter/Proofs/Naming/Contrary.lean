/-
  AssertionWriter.Proofs.Naming.Contrary

  Predicates and their contraries. Whatever a member is called, what is said of it starts
  with one of the verbs, and so does the contrary, which is never the same name. The
  contrary of the contrary is the name again, unless that says "not" twice: the second one
  is then taken for a part of the verb.
-/
import AssertionWriter.Naming.Accessor

namespace AssertionWriter.Naming
open Text

/-! ## Names that start with a verb -/

/-- What a name divides into: a verb of the table, and what starts in upper case behind it. -/
theorem predicate?_spec {name rest : List Char} {v : Verb}
    (h : predicate? name = some (v, rest)) :
    v ∈ Verb.all ∧ name = v.word.toList ++ rest ∧ rest.head?.any isUppercase = true := by
  obtain ⟨w, hw, hbehind⟩ := List.exists_of_findSome?_eq_some h
  obtain ⟨r, hr, hpair⟩ := Option.map_eq_some_iff.1 hbehind
  obtain ⟨rfl, rfl⟩ := Prod.mk.inj hpair
  exact ⟨hw, behind?_eq_some_iff.1 hr⟩

theorem isPredicate_append {v : Verb} (hv : v ∈ Verb.all) {rest : String}
    (hrest : rest.toList.head?.any isUppercase = true) : isPredicate (v.word ++ rest) = true := by
  rw [isPredicate, predicate?, List.findSome?_isSome_iff]
  refine ⟨v, hv, ?_⟩
  rw [String.toList_append, Option.isSome_map, behind?_eq_some_iff.2 ⟨rfl, hrest⟩]
  rfl

/-- The opposite of a verb is the word of another one, whose opposite is the verb's own. -/
theorem exists_opposite {v : Verb} (hv : v ∈ Verb.all) :
    (∃ w ∈ Verb.all, w.word = v.opposite ∧ w.opposite = v.word) ∧ v.opposite ≠ v.word := by
  have hall : (Verb.all.all fun v =>
      Verb.all.any (fun w => w.word = v.opposite ∧ w.opposite = v.word) &&
        decide (v.opposite ≠ v.word)) = true := by decide
  have hopposite := List.all_eq_true.1 hall v hv
  simpa using hopposite

/-! ## Predicates -/

theorem predicateOf_eq_self {member : String} (h : isPredicate member = true) :
    predicateOf member = member := if_pos h

/-- Where the name of a member starts with no verb, the name that is made from it starts with
    this one. -/
theorem exists_predicateOf_eq {member : String} (h : isPredicate member = false) :
    ∃ rest, predicateOf member = "is" ++ rest := by
  rw [predicateOf, if_neg (by simp [h])]
  split <;> exact ⟨_, rfl⟩

/-! ## Contraries -/

/-- The contrary of a name that starts with a verb starts with the opposite. -/
theorem isPredicate_contrary {predicate : String} (h : isPredicate predicate = true) :
    isPredicate (contrary predicate) = true := by
  obtain ⟨⟨v, rest⟩, hv⟩ := Option.isSome_iff_exists.1 h
  obtain ⟨hmem, -, hrest⟩ := predicate?_spec hv
  obtain ⟨⟨w, hw, hword, -⟩, -⟩ := exists_opposite hmem
  rw [contrary, hv]
  show isPredicate (v.opposite ++ String.ofList rest) = true
  rw [← hword]
  exact isPredicate_append hw (by rwa [String.toList_ofList])

theorem isPredicate_contrary_predicateOf (member : String) :
    isPredicate (contrary (predicateOf member)) = true := by
  by_cases hpredicate : isPredicate (predicateOf member) = true
  · exact isPredicate_contrary hpredicate
  · -- Nothing in upper case follows the "is" of the predicate; its contrary has "Is" instead.
    have hmember : isPredicate member = false := by
      rw [← Bool.not_eq_true]
      intro hmember
      rw [predicateOf_eq_self hmember] at hpredicate
      exact hpredicate hmember
    obtain ⟨rest, hrest⟩ := exists_predicateOf_eq hmember
    have hnone : predicate? (predicateOf member).toList = none := by
      rwa [isPredicate, Option.not_isSome_iff_eq_none] at hpredicate
    rw [contrary, hnone]
    refine isPredicate_append (v := ⟨"isNot", "is", "is not", "not to be"⟩) (by decide) ?_
    have hupper : toUpper 'i' = ['I'] := by decide
    rw [capitalized, String.toList_ofList, hrest, String.toList_append]
    show ((toUpper 'i' ++ 's' :: rest.toList).head?.any isUppercase) = true
    rw [hupper]
    show isUppercase 'I' = true
    decide

theorem contrary_ne (predicate : String) : contrary predicate ≠ predicate := by
  intro heq
  rw [contrary] at heq
  split at heq
  · next v rest hv =>
    obtain ⟨hmem, hname, -⟩ := predicate?_spec hv
    have hwords : v.opposite.toList = v.word.toList := by
      refine (List.append_left_inj rest).1 ?_
      rw [← hname, ← heq, String.toList_append, String.toList_ofList]
    exact (exists_opposite hmem).2 (String.toList_inj.1 hwords)
  · -- The contrary is longer: at most the first character is lost when it is put in upper case.
    have hlength := congrArg (fun s => s.toList.length) heq
    have hcapital : predicate.toList.length ≤ (capitalize predicate.toList).length + 1 := by
      cases predicate.toList with
      | nil => exact Nat.zero_le _
      | cons c cs =>
        show cs.length + 1 ≤ (toUpper c ++ cs).length + 1
        rw [List.length_append]
        omega
    simp only [capitalized, String.toList_append, String.toList_ofList,
      List.length_append] at hlength
    have hword : "isNot".toList.length = 5 := by decide
    omega

/-! ## The longest verb -/

theorem word_inj : ∀ v ∈ Verb.all, ∀ w ∈ Verb.all, v.word = w.word → v = w := by decide

/-- No verb stands behind one that its word extends. -/
theorem pairwise_not_prefix :
    Verb.all.Pairwise fun v w => ¬v.word.toList <+: w.word.toList := by decide

/-- Of all verbs that a name starts with, the one that is found has the longest word. -/
theorem prefix_of_predicate? {name rest : List Char} {v w : Verb}
    (h : predicate? name = some (v, rest)) (hw : w ∈ Verb.all)
    (hbehind : (behind? w.word name).isSome = true) : w.word.toList <+: v.word.toList := by
  obtain ⟨front, u, back, hall, hu, hfront⟩ := List.findSome?_eq_some_iff.1 h
  obtain ⟨r, hr, hpair⟩ := Option.map_eq_some_iff.1 hu
  obtain ⟨rfl, rfl⟩ := Prod.mk.inj hpair
  obtain ⟨r', hr'⟩ := Option.isSome_iff_exists.1 hbehind
  have hprefix : u.word.toList <+: name := ⟨r, (behind?_eq_some_iff.1 hr).1.symm⟩
  have hprefix' : w.word.toList <+: name := ⟨r', (behind?_eq_some_iff.1 hr').1.symm⟩
  rw [hall] at hw
  rcases List.mem_append.1 hw with hw | hw
  · -- The verbs in front have been tried in vain.
    have hnone := hfront w hw
    rw [hr'] at hnone
    cases hnone
  · rcases List.mem_cons.1 hw with rfl | hw
    · exact List.prefix_rfl
    · have horder := pairwise_not_prefix
      rw [hall, List.pairwise_append, List.pairwise_cons] at horder
      exact (List.prefix_or_prefix_of_prefix hprefix' hprefix).resolve_right
        (horder.2.1.1 w hw)

/-- The verb of a name that starts with a verb is this one, or one whose word goes on with what
    the name says. -/
theorem exists_extension {w u : Verb} (hw : w ∈ Verb.all) {rest said : List Char}
    (hrest : rest.head?.any isUppercase = true)
    (h : predicate? (w.word.toList ++ rest) = some (u, said)) :
    ∃ ext, u.word.toList = w.word.toList ++ ext ∧ rest = ext ++ said := by
  have hbehind : (behind? w.word (w.word.toList ++ rest)).isSome = true := by
    rw [behind?_eq_some_iff.2 ⟨rfl, hrest⟩]
    rfl
  obtain ⟨ext, hext⟩ := prefix_of_predicate? h hw hbehind
  obtain ⟨-, hname, -⟩ := predicate?_spec h
  rw [← hext, List.append_assoc, List.append_cancel_left_eq] at hname
  exact ⟨ext, hext.symm, hname⟩

/-! ## Contraries of contraries -/

/-- The verbs that "not" makes of others. -/
def negatedWords : List String := ["isNot", "wasNot", "shouldNot", "willNot"]

/-- The name says "not" in its verb, and once more behind it. -/
def SaysNotTwice (v : Verb) (rest : List Char) : Prop :=
  v.word ∈ negatedWords ∧
    ∃ said, rest = "Not".toList ++ said ∧ said.head?.any isUppercase = true

/-- Where an opposite can be extended to the word of a verb, the verb itself can be extended in the
    same way, unless the extension is a "not" that the verb has already. -/
theorem cases_of_extension {v u : Verb} (hv : v ∈ Verb.all) (hu : u ∈ Verb.all) {ext : List Char}
    (h : behind? v.opposite u.word.toList = some ext) :
    (∃ w ∈ Verb.all, w.word.toList = v.word.toList ++ ext) ∨
      v.word ∈ negatedWords ∧ ext ∈ ["Not".toList, "NotBe".toList] := by
  have hall : (Verb.all.all fun v => Verb.all.all fun u =>
      (behind? v.opposite u.word.toList).all fun ext =>
        Verb.all.any (fun w => w.word.toList = v.word.toList ++ ext) ||
          decide (v.word ∈ negatedWords ∧ ext ∈ ["Not".toList, "NotBe".toList])) = true := by
    decide
  have hcase := List.all_eq_true.1 (List.all_eq_true.1 hall v hv) u hu
  rw [h] at hcase
  simpa using hcase

theorem word_of_mem_negatedWords : ∀ v ∈ Verb.all, v.word ∈ negatedWords →
    v.word.toList = v.opposite.toList ++ "Not".toList := by decide

theorem toList_contrary {predicate : String} {v : Verb} {rest : List Char}
    (h : predicate? predicate.toList = some (v, rest)) :
    (contrary predicate).toList = v.opposite.toList ++ rest := by
  rw [contrary, h]
  exact (String.toList_append ..).trans (by rw [String.toList_ofList])

/-- The verb of a contrary is the opposite verb, or one whose word extends the opposite by `ext`,
    which the predicate has behind its own verb. -/
theorem exists_verb_contrary {predicate : String} {v : Verb} {rest : List Char}
    (h : predicate? predicate.toList = some (v, rest)) :
    ∃ u ext said, predicate? (contrary predicate).toList = some (u, said) ∧
      u.word.toList = v.opposite.toList ++ ext ∧ rest = ext ++ said := by
  obtain ⟨hv, -, hrest⟩ := predicate?_spec h
  obtain ⟨⟨w, hw, hword, -⟩, -⟩ := exists_opposite hv
  have hpredicate : isPredicate (contrary predicate) = true :=
    isPredicate_contrary (by rw [isPredicate, h]; rfl)
  obtain ⟨⟨u, said⟩, hu⟩ := Option.isSome_iff_exists.1 hpredicate
  have hname := hu
  rw [toList_contrary h, ← hword] at hname
  obtain ⟨ext, hext, hsaid⟩ := exists_extension hw hrest hname
  exact ⟨u, ext, said, hu, hword ▸ hext, hsaid⟩

section
variable {predicate : String} {v u : Verb} {ext said : List Char}

/-- No verb has the word of a name's own verb with something of what the name says behind it. -/
theorem eq_nil_of_word_eq {w : Verb} (hw : w ∈ Verb.all)
    (h : predicate? predicate.toList = some (v, ext ++ said))
    (hsaid : said.head?.any isUppercase = true) (hword : w.word.toList = v.word.toList ++ ext) :
    ext = [] := by
  obtain ⟨-, hname, -⟩ := predicate?_spec h
  have hbehind : behind? w.word predicate.toList = some said :=
    behind?_eq_some_iff.2 ⟨by rw [hname, hword, List.append_assoc], hsaid⟩
  have hlength := (prefix_of_predicate? h hw (by rw [hbehind]; rfl)).length_le
  rw [hword, List.length_append] at hlength
  exact List.eq_nil_of_length_eq_zero (by omega)

theorem contrary_contrary_eq_self_iff_nil
    (h : predicate? predicate.toList = some (v, ext ++ said))
    (hcontrary : predicate? (contrary predicate).toList = some (u, said))
    (hword : u.word.toList = v.opposite.toList ++ ext) :
    contrary (contrary predicate) = predicate ↔ ext = [] := by
  obtain ⟨hv, hname, -⟩ := predicate?_spec h
  obtain ⟨hu, -, hsaid⟩ := predicate?_spec hcontrary
  rw [← String.toList_inj, toList_contrary hcontrary, hname, ← List.append_assoc,
    List.append_left_inj]
  constructor
  · -- The opposite of `u` is itself a verb of the table.
    intro hopposite
    obtain ⟨⟨w, hw, hw', -⟩, -⟩ := exists_opposite hu
    exact eq_nil_of_word_eq hw h hsaid (hw' ▸ hopposite)
  · rintro rfl
    obtain ⟨⟨w, hw, hw', hback⟩, -⟩ := exists_opposite hv
    rw [List.append_nil, ← hw'] at hword
    rw [List.append_nil, word_inj u hu w hw (String.toList_inj.1 hword), hback]

theorem saysNotTwice_iff_ne_nil
    (h : predicate? predicate.toList = some (v, ext ++ said))
    (hcontrary : predicate? (contrary predicate).toList = some (u, said))
    (hword : u.word.toList = v.opposite.toList ++ ext) :
    SaysNotTwice v (ext ++ said) ↔ ext ≠ [] := by
  obtain ⟨hv, -, hrest⟩ := predicate?_spec h
  obtain ⟨hu, -, hsaid⟩ := predicate?_spec hcontrary
  constructor
  · -- The second "not" makes of the opposite the verb itself, and this has the longer word.
    rintro ⟨hnegated, said', hsaid', hupper⟩ rfl
    have hnot := word_of_mem_negatedWords v hv hnegated
    have hbehind : behind? v.word (contrary predicate).toList = some said' := by
      refine behind?_eq_some_iff.2 ⟨?_, hupper⟩
      rw [toList_contrary h, hsaid', hnot, List.append_assoc]
    have hlength := (prefix_of_predicate? hcontrary hv (by rw [hbehind]; rfl)).length_le
    rw [hword, hnot, List.append_nil, List.length_append] at hlength
    have hthree : "Not".toList.length = 3 := by decide
    omega
  · intro hne
    have hupper : ext.head?.any isUppercase = true := by
      cases ext with
      | nil => exact absurd rfl hne
      | cons c cs => exact hrest
    rcases cases_of_extension hv hu (behind?_eq_some_iff.2 ⟨hword, hupper⟩) with
      ⟨w, hw, hw'⟩ | ⟨hnegated, hext⟩
    · exact absurd (eq_nil_of_word_eq hw h hsaid hw') hne
    · refine ⟨hnegated, ?_⟩
      rcases List.mem_cons.1 hext with rfl | hext
      · exact ⟨said, rfl, hsaid⟩
      · -- "NotBe" belongs to a longer verb; behind "Not" stands the upper-case "Be".
        obtain rfl := List.mem_singleton.1 hext
        exact ⟨"Be".toList ++ said, rfl, by show isUppercase 'B' = true; decide⟩

end

/-- The contrary of a predicate is another predicate, and its contrary is the predicate again
    exactly if that does not say "not" twice. -/
theorem contrary_contrary_eq_self_iff {predicate : String} {v : Verb} {rest : List Char}
    (h : predicate? predicate.toList = some (v, rest)) :
    isPredicate (contrary predicate) = true ∧ contrary predicate ≠ predicate ∧
      (contrary (contrary predicate) = predicate ↔ ¬SaysNotTwice v rest) := by
  refine ⟨isPredicate_contrary (by rw [isPredicate, h]; rfl), contrary_ne predicate, ?_⟩
  obtain ⟨u, ext, said, hcontrary, hword, rfl⟩ := exists_verb_contrary h
  rw [contrary_contrary_eq_self_iff_nil h hcontrary hword,
    saysNotTwice_iff_ne_nil h hcontrary hword, Decidable.not_not]

/-- What is `isNotNotOpen` is not `isNotOpen`, and what is not `isNotOpen` is `isOpen`. -/
theorem contrary_contrary_isNotNotOpen_ne :
    contrary (contrary "isNotNotOpen") ≠ "isNotNotOpen" := by
  have h : predicate? "isNotNotOpen".toList =
      some (⟨"isNot", "is", "is not", "not to be"⟩, "NotOpen".toList) := by decide
  intro heq
  exact (contrary_contrary_eq_self_iff h).2.2.1 heq ⟨by decide, "Open".toList, by decide, by decide⟩

end AssertionWriter.Naming
