/-
  AssertionWriter.Proofs.JavaType.Reading

  Reading a signature back. `Spelled` says which types are what their signatures are read
  as; whatever a well-formed signature gives is one of them. A malformed signature may
  give a raw type whose name reads as a variable, and `reread` is what becomes of that.
-/
import AssertionWriter.JavaType.Rendering
import AssertionWriter.Proofs.JavaType.Grammar
import AssertionWriter.Proofs.QualifiedName.Reading

namespace AssertionWriter.JavaType
open Text

/-! ## Types that are what their signatures are read as -/

/-- Whether the type is a wildcard with a bound, whose brackets would be read as the bound's. -/
def isExtending : JavaType → Bool
  | extending _ => true
  | _ => false

mutual
/-- Names are well formed, variables look like variables and names do not, and no array is one
    of bounded wildcards. -/
def Spelled : JavaType → Prop
  | named n as => n.WellFormed ∧ isVariable n.binary.toList = false ∧ AllSpelled as
  | array c => Spelled c ∧ c.isExtending = false
  | typeVar v => isVariable v.toList = true
  | unbounded => True
  | extending b => Spelled b

/-- All types of a list are spelled. -/
def AllSpelled : List JavaType → Prop
  | [] => True
  | a :: as => Spelled a ∧ AllSpelled as
end

theorem spelled_arrays {t : JavaType} {n : Nat} :
    (arrays n t).Spelled ↔ t.Spelled ∧ (n = 0 ∨ t.isExtending = false) := by
  induction n generalizing t with
  | zero => simp [arrays]
  | succ n ih =>
    rw [arrays, ih, Spelled]
    simp [isExtending]

/-! ## What is read is spelled -/

theorem isNameChar_of_isVariable {v : List Char} (h : isVariable v = true) {c : Char}
    (hc : c ∈ v) : isAlphanumeric c = true := by
  cases v with
  | nil => exact absurd hc (by simp)
  | cons d ds =>
    rw [isVariable, Bool.and_eq_true, List.all_eq_true] at h
    rcases List.mem_cons.1 hc with rfl | hc
    · exact isAlphanumeric_of_isUpper h.1
    · exact isAlphanumeric_of_isDigit (h.2 c hc)

theorem isIdentChar_of_readsIdent {s ident r : List Char} (h : ReadsIdent s ident r) {c : Char}
    (hc : c ∈ ident) : isIdentChar c = true := by
  obtain ⟨-, rfl, -⟩ := h
  exact List.all_eq_true.1 List.all_takeWhile c hc

/-- No white space may stand in an identifier. -/
theorem isBlank_eq_false_of_isIdentChar {c : Char} (h : isIdentChar c = true) :
    isBlank c = false := by
  rw [isIdentChar, Bool.or_eq_true, decide_eq_true_eq] at h
  rcases h with h | rfl
  · exact isBlank_eq_false_of_isNameChar h
  · decide

/-- The spelling of a name that has been read is no variable, since its text was none. -/
theorem isVariable_binary_of_readsIdent {s ident r : List Char} {n : QualifiedName}
    (hi : ReadsIdent s ident r) (hv : isVariable ident = false)
    (hn : QualifiedName.parse? (String.ofList ident) = some n) :
    isVariable n.binary.toList = false := by
  rw [Bool.eq_false_iff]
  intro hvar
  have hdot : '.' ∉ n.binary.toList := fun hc =>
    absurd (isNameChar_of_isVariable hvar hc) (by decide)
  have hdollar : '$' ∉ n.binary.toList := fun hc =>
    absurd (isNameChar_of_isVariable hvar hc) (by decide)
  have htext := QualifiedName.binary_eq_of_parse? hn hdot hdollar
  rw [String.toList_ofList, trim_eq_self fun c hc =>
    isBlank_eq_false_of_isIdentChar (isIdentChar_of_readsIdent hi hc)] at htext
  rw [htext, hv] at hvar
  exact absurd hvar (by simp)

mutual
/-- A type that has been read is spelled. -/
theorem Reads.spelled {s r : List Char} {t : JavaType} : Reads s t r → t.Spelled
  | .extending _ _ hb hn => by
    have hbound := hb.spelled
    -- All brackets have been taken by the bound.
    obtain ⟨rfl, rfl⟩ := hb.eq_of_brackets hn
    exact spelled_arrays.2 ⟨hbound, .inl rfl⟩
  | .super _ _ _ _ _ => spelled_arrays.2 ⟨trivial, .inr rfl⟩
  | .unbounded _ _ _ _ => spelled_arrays.2 ⟨trivial, .inr rfl⟩
  | .typeVar _ _ hv _ => spelled_arrays.2 ⟨by rwa [Spelled, String.toList_ofList], .inr rfl⟩
  | .raw _ hi hv hn _ _ =>
    spelled_arrays.2 ⟨⟨QualifiedName.wellFormed_of_parse? hn,
      isVariable_binary_of_readsIdent hi hv hn, trivial⟩, .inr rfl⟩
  | .generic _ hi hv hn _ hargs _ => by
    have hall := hargs.allSpelled
    exact spelled_arrays.2 ⟨⟨QualifiedName.wellFormed_of_parse? hn,
      isVariable_binary_of_readsIdent hi hv hn, hall⟩, .inr rfl⟩

theorem ReadsArguments.allSpelled {s r : List Char} {ts : List JavaType} :
    ReadsArguments s ts r → AllSpelled ts
  | .last ht _ _ => ⟨ht.spelled, trivial⟩
  | .more ht _ hts => ⟨ht.spelled, hts.allSpelled⟩
end

/-! ## What is spelled is read -/

/-- `n` pairs of brackets. -/
def pairs : Nat → List Char
  | 0 => []
  | n + 1 => '[' :: ']' :: pairs n

/-- Whether a type may end before `s`. -/
def isStop (s : List Char) : Bool := s.head?.all fun c => c = ',' || c = '>'

theorem not_leads_of_ne {l c : Char} (hc : isBlank c = false) (hne : l ≠ c) (ls s : List Char) :
    ¬Leads (l :: ls) (c :: s) :=
  not_leads_of_trimStart_eq (trimStart_cons hc s) hne

/-- At a stop nothing but the stop can be eaten. -/
theorem not_leads_of_isStop {s lead : List Char} (hs : isStop s = true)
    (hlead : lead.head?.any (fun c => c ≠ ',' && c ≠ '>') = true) : ¬Leads lead s := by
  obtain ⟨l, ls, rfl⟩ := List.exists_cons_of_ne_nil (l := lead) (by rintro rfl; simp at hlead)
  simp only [List.head?_cons, Option.any_some, Bool.and_eq_true, decide_eq_true_eq] at hlead
  cases s with
  | nil => simp [Leads, trimStart]
  | cons c cs =>
    simp only [isStop, List.head?_cons, Option.all_some, Bool.or_eq_true, decide_eq_true_eq] at hs
    rcases hs with rfl | rfl
    · exact not_leads_of_ne (by decide) hlead.1 ls cs
    · exact not_leads_of_ne (by decide) hlead.2 ls cs

theorem brackets_pairs {rest : List Char} (h : isStop rest = true) (n : Nat) :
    Brackets (pairs n ++ rest) n rest := by
  induction n with
  | zero => exact .none (not_leads_of_isStop h (by decide))
  | succ n ih =>
    refine .more ?_ ih
    exact trimStart_cons (by decide) _

/-- Behind a name there is no further character of it, and no argument. -/
theorem head?_pairs {rest : List Char} (h : isStop rest = true) (n : Nat) :
    (pairs n ++ rest).head?.all (fun c => c = '[' || c = ',' || c = '>') = true := by
  cases n with
  | zero =>
    cases rest with
    | nil => rfl
    | cons c cs =>
      have hc : c = ',' ∨ c = '>' := by simpa [isStop] using h
      rcases hc with rfl | rfl <;> rfl
  | succ n => rfl

/-- An identifier ends before brackets, arguments and stops. -/
theorem readsIdent_append {ident r : List Char} (hne : ident ≠ [])
    (hident : ∀ c ∈ ident, isIdentChar c = true)
    (hr : r.head?.all (!isIdentChar ·) = true) : ReadsIdent (ident ++ r) ident r := by
  obtain ⟨c, cs, rfl⟩ := List.exists_cons_of_ne_nil hne
  have htrim : trimStart (c :: cs ++ r) = c :: cs ++ r :=
    trimStart_cons (isBlank_eq_false_of_isIdentChar (hident c (by simp))) _
  have hstop : r.takeWhile isIdentChar = [] ∧ r.dropWhile isIdentChar = r := by
    cases r with
    | nil => exact ⟨rfl, rfl⟩
    | cons d ds =>
      have hd : isIdentChar d = false := by simpa using hr
      exact ⟨List.takeWhile_cons_of_neg (by simp [hd]), List.dropWhile_cons_of_neg (by simp [hd])⟩
  refine ⟨hne, ?_, ?_⟩
  · rw [htrim, List.takeWhile_append_of_pos hident, hstop.1, List.append_nil]
  · rw [htrim, List.dropWhile_append_of_pos hident, hstop.2]

/-- Behind a name with brackets nothing goes on with the name. -/
theorem not_isIdentChar_head?_pairs {rest : List Char} (h : isStop rest = true) (n : Nat) :
    (pairs n ++ rest).head?.all (!isIdentChar ·) = true := by
  have hhead := head?_pairs h n
  cases hp : (pairs n ++ rest).head? with
  | none => rfl
  | some c =>
    rw [hp] at hhead
    simp only [Option.all_some, Bool.or_eq_true, decide_eq_true_eq] at hhead
    rcases hhead with (rfl | rfl) | rfl <;> decide

theorem not_leads_angle_pairs {rest : List Char} (h : isStop rest = true) (n : Nat) :
    ¬Leads ['<'] (pairs n ++ rest) := by
  cases n with
  | zero => exact not_leads_of_isStop h (by decide)
  | succ n => exact not_leads_of_ne (by decide) (by decide) _ _

/-- A text that starts with an identifier starts with no wildcard. -/
theorem not_leads_question {ident r : List Char} (hne : ident ≠ [])
    (hident : ∀ c ∈ ident, isIdentChar c = true) : ¬Leads ['?'] (ident ++ r) := by
  obtain ⟨c, cs, rfl⟩ := List.exists_cons_of_ne_nil hne
  have hc := hident c (by simp)
  refine not_leads_of_ne (isBlank_eq_false_of_isIdentChar hc) ?_ _ _
  rintro rfl
  exact absurd hc (by decide)

theorem isIdentChar_of_mem_binary {n : QualifiedName} (h : n.WellFormed) {c : Char}
    (hc : c ∈ n.binary.toList) : isIdentChar c = true := by
  rw [isIdentChar, Bool.or_eq_true, decide_eq_true_eq]
  exact QualifiedName.isNameChar_or_dot_of_mem_binary h hc

theorem binary_ne_nil {n : QualifiedName} (h : n.WellFormed) : n.binary.toList ≠ [] := by
  intro hnil
  have hread := QualifiedName.parse?_binary h
  rw [← String.ofList_toList (s := n.binary), hnil] at hread
  have hempty : QualifiedName.parse? (String.ofList []) = none := by decide
  exact absurd (hempty.symm.trans hread) (by simp)

theorem isIdentChar_of_isVariable {v : List Char} (h : isVariable v = true) :
    v ≠ [] ∧ ∀ c ∈ v, isIdentChar c = true := by
  constructor
  · rintro rfl
    exact absurd h (by decide)
  · intro c hc
    simp [isIdentChar, QualifiedName.isNameChar, isNameChar_of_isVariable h hc]

mutual
/-- A spelled type is read from its signature, with the brackets behind it if it can have any. -/
theorem reads_render : (t : JavaType) → t.Spelled → ∀ {n : Nat} {rest : List Char},
    isStop rest = true → (n = 0 ∨ t.isExtending = false) →
    Reads ((t.render QualifiedName.binary).toList ++ (pairs n ++ rest)) (arrays n t) rest
  | .named name [], h, n, rest, hrest, _ => by
    obtain ⟨hname, hv, -⟩ := h
    have hident := fun c => isIdentChar_of_mem_binary hname (c := c)
    have hne := binary_ne_nil hname
    rw [render]
    refine .raw (not_leads_question hne hident)
      (readsIdent_append hne hident (not_isIdentChar_head?_pairs hrest n)) hv ?_
      (not_leads_angle_pairs hrest n) (brackets_pairs hrest n)
    rw [String.ofList_toList, QualifiedName.parse?_binary hname]
  | .named name (a :: as), h, n, rest, hrest, _ => by
    obtain ⟨hname, hv, ha, has⟩ := h
    have hident := fun c => isIdentChar_of_mem_binary hname (c := c)
    have hne := binary_ne_nil hname
    have hstop : isStop ((renderMore QualifiedName.binary as).toList ++ '>' :: (pairs n ++ rest)) :=
      by cases as <;> simp [renderMore, isStop]
    -- Each argument ends at a comma or at the closing bracket.
    have hargs := readsArguments_renderMore as has (reads_render a ha hstop (.inl rfl))
    have htext : ((JavaType.named name (a :: as)).render QualifiedName.binary).toList ++
        (pairs n ++ rest) = name.binary.toList ++ '<' :: ((a.render QualifiedName.binary).toList ++
          ((renderMore QualifiedName.binary as).toList ++ '>' :: (pairs n ++ rest))) := by
      simp [render]
    have hangle : isIdentChar '<' = false := by decide
    rw [htext]
    refine .generic (not_leads_question hne hident)
      (readsIdent_append hne hident (by simp [hangle])) hv ?_ (trimStart_cons (by decide) _) hargs
      (brackets_pairs hrest n)
    rw [String.ofList_toList, QualifiedName.parse?_binary hname]
  | .array c, h, n, rest, hrest, _ => by
    -- The brackets of the array stand in front of the others.
    have := reads_render c h.1 hrest (n := n + 1) (.inr h.2)
    rw [arrays] at this
    simpa [render, pairs] using this
  | .typeVar v, h, n, rest, hrest, _ => by
    obtain ⟨hne, hident⟩ := isIdentChar_of_isVariable h
    rw [render]
    have := Reads.typeVar (not_leads_question hne hident)
      (readsIdent_append hne hident (not_isIdentChar_head?_pairs hrest n)) h
      (brackets_pairs hrest n)
    rwa [String.ofList_toList] at this
  | .unbounded, _, n, rest, hrest, _ => by
    rw [render]
    refine .unbounded (trimStart_cons (by decide) _) ?_ ?_ (brackets_pairs hrest n)
    all_goals
      cases n with
      | zero => exact not_leads_of_isStop hrest (by decide)
      | succ n => exact not_leads_of_ne (by decide) (by decide) _ _
  | .extending b, h, n, rest, hrest, hn => by
    -- The bound would take the brackets, so there must be none.
    obtain rfl : n = 0 := hn.resolve_right (by simp [isExtending])
    have hb := reads_render b h hrest (n := 0) (.inl rfl)
    rw [render, String.toList_append, List.append_assoc]
    refine .extending (r := ' ' :: "extends ".toList ++ _) (trimStart_cons (by decide) _) ?_ hb
      (brackets_pairs hrest 0)
    exact (List.dropWhile_cons_of_pos (by decide)).trans (trimStart_cons (by decide) _)

/-- Further arguments are read behind a first one, up to the closing bracket. -/
theorem readsArguments_renderMore : (as : List JavaType) → AllSpelled as →
    ∀ {s rest : List Char} {t : JavaType},
    Reads s t ((renderMore QualifiedName.binary as).toList ++ '>' :: rest) →
    ReadsArguments s (t :: as) rest
  | [], _, s, rest, t, ht => by
    rw [renderMore] at ht
    exact .last ht (not_leads_of_ne (by decide) (by decide) _ _) (trimStart_cons (by decide) _)
  | a :: as, h, s, rest, t, ht => by
    have hstop : isStop ((renderMore QualifiedName.binary as).toList ++ '>' :: rest) := by
      cases as <;> simp [renderMore, isStop]
    have ha := reads_render a h.1 hstop (n := 0) (.inl rfl)
    have htext : (renderMore QualifiedName.binary (a :: as)).toList ++ '>' :: rest =
        ',' :: ' ' :: ((a.render QualifiedName.binary).toList ++
          (pairs 0 ++ ((renderMore QualifiedName.binary as).toList ++ '>' :: rest))) := by
      simp [renderMore, pairs]
    rw [htext] at ht
    -- The blank behind the comma is skipped.
    have hblank : Reads (' ' :: _) a _ := ha.congr (List.dropWhile_cons_of_pos (by decide)).symm
    exact .more ht (trimStart_cons (by decide) _) (readsArguments_renderMore as h.2 hblank)
end

/-- A spelled type is read back from its signature. -/
theorem parse_signature {t : JavaType} (h : t.Spelled) : parse t.signature = .ok t := by
  have hread : Reads (_ ++ (pairs 0 ++ [])) (arrays 0 t) [] := reads_render t h rfl (.inl rfl)
  rw [pairs, List.append_nil, List.append_nil, arrays] at hread
  exact parse_eq_ok_iff.2 ⟨[], hread, rfl⟩

/-- A signature that can be read gives a spelled type. -/
theorem spelled_of_parse {text : String} {t : JavaType} (h : parse text = .ok t) : t.Spelled := by
  obtain ⟨r, hread, -⟩ := parse_eq_ok_iff.1 h
  exact hread.spelled

/-- A type that has been read from any text is read again from its signature. -/
theorem parse_signature_of_parse {text : String} {t : JavaType} (h : parse text = .ok t) :
    parse t.signature = .ok t :=
  parse_signature (spelled_of_parse h)

/-- A text with white space between its tokens, in which the bounds take the brackets. -/
def spacedText : String := " Map < K2 ,?super a.B [] , ? extends C$D<T> []>\t[]"

/-- The type that it is read as. -/
def spacedType : JavaType :=
  .array (.named ⟨"", [], "Map"⟩ [.typeVar "K2", .unbounded,
    .extending (.array (.named ⟨"", ["C"], "D"⟩ [.typeVar "T"]))])

theorem parse_spacedText : parse spacedText = .ok spacedType := by
  have hread : (parse spacedText).toOption = some spacedType := by decide +kernel
  cases hparse : parse spacedText with
  | error e => simp [hparse, Except.toOption] at hread
  | ok t =>
    rw [hparse] at hread
    rw [Option.some.inj hread]

theorem parse_signature_of_parse_spacedText :
    parse spacedText = .ok spacedType ∧ parse spacedType.signature = .ok spacedType :=
  ⟨parse_spacedText, parse_signature_of_parse parse_spacedText⟩

/-! ## Malformed signatures -/

/-- What the signature of a type is read as: a raw type whose name looks like a variable becomes
    that variable. -/
def reread : JavaType → JavaType
  | named n [] => if isVariable n.binary.toList then typeVar n.binary else named n []
  | array c => array (reread c)
  | t => t

/-- Whether the type, or the innermost component of an array, is a raw type whose name looks like
    a variable. -/
def readsAsVariable : JavaType → Bool
  | named n [] => isVariable n.binary.toList
  | array c => readsAsVariable c
  | _ => false

/-- What signatures give, malformed ones included: a spelled type, or arrays of a raw type. -/
def Readable (t : JavaType) : Prop :=
  t.Spelled ∨ ∃ (n : Nat) (name : QualifiedName), t = arrays n (raw name) ∧ name.WellFormed

theorem reread_arrays (n : Nat) (t : JavaType) : (arrays n t).reread = arrays n t.reread := by
  induction n generalizing t with
  | zero => rfl
  | succ n ih => rw [arrays, ih, arrays, reread]

/-- Reading changes no spelled type. -/
theorem reread_of_spelled : (t : JavaType) → t.Spelled → t.reread = t
  | named n [], h => by rw [reread, h.2.1, if_neg (by simp)]
  | named _ (_ :: _), _ => rfl
  | array c, h => by rw [reread, reread_of_spelled c h.1]
  | typeVar _, _ | unbounded, _ | extending _, _ => rfl

/-- Reading a type again gives a spelled type. -/
theorem Readable.spelled_reread {t : JavaType} (h : t.Readable) : t.reread.Spelled := by
  rcases h with h | ⟨n, name, rfl, hname⟩
  · rwa [reread_of_spelled t h]
  · rw [reread_arrays, spelled_arrays, raw, reread]
    split
    · next hvar => exact ⟨hvar, .inr rfl⟩
    · next hvar => exact ⟨⟨hname, Bool.eq_false_iff.2 hvar, trivial⟩, .inr rfl⟩

theorem signature_reread {t : JavaType} : t.reread.signature = t.signature := by
  induction t using reread.induct with
  | case1 n hvar =>
    rw [reread, if_pos hvar]
    simp [signature, render]
  | case2 n hvar => rw [reread, if_neg hvar]
  | case3 c ih =>
    rw [reread]
    exact congrArg (· ++ "[]") ih
  | case4 t hn ha => rw [reread] <;> assumption

/-- What becomes of a type that is written and read again. -/
theorem Readable.parseLenient_signature {t : JavaType} (h : t.Readable) :
    parseLenient t.signature = .ok t.reread := by
  rw [parseLenient, ← signature_reread, parse_signature h.spelled_reread]

/-- Only types that read as variables are read as something else. -/
theorem reread_eq_iff {t : JavaType} : t.reread = t ↔ t.readsAsVariable = false := by
  induction t using reread.induct with
  | case1 n hvar => simp [reread, readsAsVariable, hvar]
  | case2 n hvar => simp [reread, readsAsVariable, hvar]
  | case3 c ih => rw [reread, readsAsVariable, JavaType.array.injEq, ih]
  | case4 t hn ha =>
    rw [reread, readsAsVariable]
    · simp
    all_goals assumption

theorem readable_of_parseLenient {text : String} {t : JavaType} (h : parseLenient text = .ok t) :
    t.Readable := by
  unfold parseLenient at h
  split at h
  · next t' ht =>
    obtain rfl := Except.ok.inj h
    exact .inl (spelled_of_parse ht)
  · split at h
    · next t' ht =>
      obtain rfl := Except.ok.inj h
      obtain ⟨name, hname, rfl⟩ := Option.map_eq_some_iff.1 ht
      exact .inr ⟨_, name, rfl, QualifiedName.wellFormed_of_parse? hname⟩
    · exact absurd h (by simp)

theorem readable_raw {text : String} {n : QualifiedName}
    (h : QualifiedName.parse? text = some n) : (raw n).Readable :=
  .inr ⟨0, n, rfl, QualifiedName.wellFormed_of_parse? h⟩

theorem name?_arrays_array (k : Nat) (t : JavaType) : (arrays k (array t)).name? = none := by
  induction k generalizing t with
  | zero => rfl
  | succ k ih => exact ih _

/-- The name of a type that has been read is well formed. -/
theorem Readable.wellFormed_of_name? {t : JavaType} (h : t.Readable) {n : QualifiedName}
    (hn : t.name? = some n) : n.WellFormed := by
  rcases h with h | ⟨k, name, rfl, hname⟩
  · cases t with
    | named m as =>
      obtain rfl := Option.some.inj hn
      exact h.1
    | array | typeVar | unbounded | extending => exact absurd hn (by simp [name?])
  · cases k with
    | zero =>
      obtain rfl := Option.some.inj hn
      exact hname
    | succ k => exact absurd (hn.symm.trans (name?_arrays_array k _)) (by simp)

end AssertionWriter.JavaType
