/-
  AssertionWriter.Proofs.JavaType.Acceptance

  Which texts are signatures. `Spells s t r` is the grammar of the language: `s` starts with
  a spelling of the type `t`, and goes on with `r`. A derivation may divide a text as it
  likes, and the reader decides at each character what comes next; they agree because no
  type is followed by anything but white space, a comma, a closing bracket or the end.
-/
import AssertionWriter.Proofs.JavaType.Reading

namespace AssertionWriter.JavaType
open Text

/-! ## Tokens -/

/-- `s` is white space, of any length, and then `r`. -/
def Blanks (s r : List Char) : Prop := ∃ w : List Char, (∀ c ∈ w, isBlank c = true) ∧ s = w ++ r

/-- `s` is a word behind white space, and then `r`. -/
abbrev Word (word s r : List Char) : Prop := Blanks s (word ++ r)

/-- `s` is an identifier behind white space, and then `r`, which does not go on with the
    identifier. -/
structure Ident (ident s r : List Char) : Prop where
  spelled : Word ident s r
  ne_nil : ident ≠ []
  chars : ∀ c ∈ ident, isIdentChar c = true
  longest : ∀ c ∈ r.head?, isIdentChar c = false

/-- `s` is `n` pairs of array brackets, with white space before each, and then `r`. -/
inductive Dimensions : List Char → Nat → List Char → Prop where
  | none {s : List Char} : Dimensions s 0 s
  | more {s r q : List Char} {n : Nat} :
      Word ['[', ']'] s r → Dimensions r n q → Dimensions s (n + 1) q

/-! ## Types -/

mutual
/-- `s` is a spelling of a type, and then what follows it. A wildcard with a bound has no
    brackets of its own, as those behind it are the bound's. -/
inductive Spells : List Char → JavaType → List Char → Prop where
  | unbounded {s r q : List Char} {n : Nat} :
      Word ['?'] s r → Dimensions r n q → Spells s (arrays n .unbounded) q
  | extending {s r r' q : List Char} {bound : JavaType} :
      Word ['?'] s r → Word "extends ".toList r r' → Spells r' bound q →
      Spells s (.extending bound) q
  | super {s r r' q : List Char} {bound : JavaType} :
      Word ['?'] s r → Word "super ".toList r r' → Spells r' bound q → Spells s .unbounded q
  | typeVar {s ident r q : List Char} {n : Nat} :
      Ident ident s r → isVariable ident = true → Dimensions r n q →
      Spells s (arrays n (.typeVar (String.ofList ident))) q
  | raw {s ident r q : List Char} {name : QualifiedName} {n : Nat} :
      Ident ident s r → isVariable ident = false →
      QualifiedName.parse? (String.ofList ident) = some name → Dimensions r n q →
      Spells s (arrays n (.named name [])) q
  | generic {s ident r r₁ r₂ r₃ q : List Char} {name : QualifiedName} {args : List JavaType}
      {n : Nat} :
      Ident ident s r → isVariable ident = false →
      QualifiedName.parse? (String.ofList ident) = some name → Word ['<'] r r₁ →
      SpellsAll r₁ args r₂ → Word ['>'] r₂ r₃ → Dimensions r₃ n q →
      Spells s (arrays n (.named name args)) q

/-- `s` is the spellings of one or more types with commas between them, and then what follows. -/
inductive SpellsAll : List Char → List JavaType → List Char → Prop where
  | one {s r : List Char} {t : JavaType} : Spells s t r → SpellsAll s [t] r
  | more {s r r' q : List Char} {t : JavaType} {ts : List JavaType} :
      Spells s t r → Word [','] r r' → SpellsAll r' ts q → SpellsAll s (t :: ts) q
end

/-- The whole text is a spelling of the type, with white space around it. -/
def IsSpelling (s : List Char) (t : JavaType) : Prop := ∃ r, Spells s t r ∧ Blanks r []

/-! ## White space -/

theorem Blanks.trimStart_eq {s r : List Char} (h : Blanks s r) : trimStart s = trimStart r := by
  obtain ⟨w, hw, rfl⟩ := h
  exact List.dropWhile_append_of_pos hw

theorem blanks_trimStart (s : List Char) : Blanks s (trimStart s) :=
  ⟨s.takeWhile isBlank, fun c hc => List.all_eq_true.1 List.all_takeWhile c hc,
    List.takeWhile_append_dropWhile.symm⟩

theorem trimStart_trimStart (s : List Char) : trimStart (trimStart s) = trimStart s :=
  (blanks_trimStart s).trimStart_eq.symm

theorem word_of_trimStart_eq {word s r : List Char} (h : trimStart s = word ++ r) :
    Word word s r := by
  rw [Word, ← h]
  exact blanks_trimStart s

/-- A word that starts with no white space is what the text starts with when it is trimmed. -/
theorem trimStart_eq_of_word {word s r : List Char} (h : Word word s r)
    (hword : word.head?.any (!isBlank ·) = true := by decide) : trimStart s = word ++ r := by
  obtain ⟨c, cs, rfl⟩ := List.exists_cons_of_ne_nil (l := word) (by rintro rfl; simp at hword)
  rw [h.trimStart_eq]
  exact trimStart_cons (by simpa using hword) _

theorem blanks_nil_iff {s : List Char} : Blanks s [] ↔ trimStart s = [] := by
  constructor
  · exact fun h => h.trimStart_eq
  · intro h
    have hblanks := blanks_trimStart s
    rwa [h] at hblanks

/-- Only the text behind the white space decides what can be eaten. -/
theorem leads_trimStart {lead s : List Char} : Leads lead (trimStart s) ↔ Leads lead s := by
  rw [Leads, trimStart_trimStart]

/-! ## Pieces -/

theorem Ident.trimStart_eq {ident s r : List Char} (h : Ident ident s r) :
    trimStart s = ident ++ r := by
  obtain ⟨c, cs, rfl⟩ := List.exists_cons_of_ne_nil h.ne_nil
  have hc := isBlank_eq_false_of_isIdentChar (h.chars c (List.mem_cons_self ..))
  exact trimStart_eq_of_word h.spelled (by simp [hc])

theorem Ident.readsIdent {ident s r : List Char} (h : Ident ident s r) :
    ReadsIdent s ident r := by
  have hstop : r.head?.all (!isIdentChar ·) = true := by
    cases r with
    | nil => rfl
    | cons c cs => simp [h.longest c rfl]
  have hread := readsIdent_append h.ne_nil h.chars hstop
  rwa [ReadsIdent, ← h.trimStart_eq, trimStart_trimStart] at hread

theorem ReadsIdent.ident {ident s r : List Char} (h : ReadsIdent s ident r) :
    Ident ident s r := by
  obtain ⟨hne, hident, hrest⟩ := h
  have hsplit : trimStart s = ident ++ r := by
    rw [hident, hrest]
    exact List.takeWhile_append_dropWhile.symm
  refine ⟨?_, hne, fun c => isIdentChar_of_readsIdent ⟨hne, hident, hrest⟩, ?_⟩
  · exact word_of_trimStart_eq hsplit
  · intro c hc
    have hhead := List.head?_dropWhile_not isIdentChar (trimStart s)
    rw [← hrest, Option.mem_def.1 hc] at hhead
    exact hhead

theorem Brackets.dimensions {s r : List Char} {n : Nat} (h : Brackets s n r) :
    Dimensions s n r := by
  induction h with
  | none _ => exact .none
  | more heq _ ih => exact .more (word_of_trimStart_eq heq) ih

/-! ## What the reader accepts is spelled -/

mutual
theorem Reads.spells {s r : List Char} {t : JavaType} : Reads s t r → Spells s t r
  | .extending hq he hb hn => by
    have hbound := hb.spells
    -- The bound has taken all brackets.
    obtain ⟨rfl, rfl⟩ := hb.eq_of_brackets hn
    exact .extending (word_of_trimStart_eq hq) (word_of_trimStart_eq he) hbound
  | .super hq _ hs hb hn => by
    have hbound := hb.spells
    obtain ⟨rfl, rfl⟩ := hb.eq_of_brackets hn
    exact .super (word_of_trimStart_eq hq) (word_of_trimStart_eq hs) hbound
  | .unbounded hq _ _ hn => .unbounded (word_of_trimStart_eq hq) hn.dimensions
  | .typeVar _ hi hv hn => .typeVar hi.ident hv hn.dimensions
  | .raw _ hi hv hname _ hn => .raw hi.ident hv hname hn.dimensions
  | .generic _ hi hv hname ho hargs hn => by
    obtain ⟨r', hall, hclose⟩ := hargs.spellsAll
    exact .generic hi.ident hv hname (word_of_trimStart_eq ho) hall hclose hn.dimensions

theorem ReadsArguments.spellsAll {s r : List Char} {ts : List JavaType} :
    ReadsArguments s ts r → ∃ r', SpellsAll s ts r' ∧ Word ['>'] r' r
  | .last ht _ hclose => ⟨_, .one ht.spells, word_of_trimStart_eq hclose⟩
  | .more ht hcomma hts => by
    have hspells := ht.spells
    obtain ⟨r', hall, hclose⟩ := hts.spellsAll
    exact ⟨r', .more hspells (word_of_trimStart_eq hcomma) hall, hclose⟩
end

/-! ## What is spelled the reader accepts -/

/-- What may follow a type, white space apart. -/
def Follows (s : List Char) : Prop := isStop (trimStart s) = true

theorem Follows.not_leads {s lead : List Char} (h : Follows s)
    (hlead : lead.head?.any (fun c => c ≠ ',' && c ≠ '>') = true) : ¬Leads lead s :=
  fun hl => not_leads_of_isStop h hlead (leads_trimStart.2 hl)

theorem follows_of_word {c : Char} {s r : List Char} (hc : c = ',' ∨ c = '>')
    (h : Word [c] s r) : Follows s := by
  have hblank : isBlank c = false := by rcases hc with rfl | rfl <;> decide
  rw [Follows, trimStart_eq_of_word h (by simp [hblank])]
  simpa [isStop] using hc

/-- The reader finds all brackets, if what follows may follow a type. -/
theorem Dimensions.brackets {s r : List Char} {n : Nat} (h : Dimensions s n r) (hr : Follows r) :
    Brackets s n r := by
  induction h with
  | none => exact .none (hr.not_leads (by decide))
  | more hword _ ih => exact .more (trimStart_eq_of_word hword) (ih hr)

/-- Behind an unbounded wildcard or a name nothing can be eaten but brackets. -/
theorem Dimensions.not_leads {s r lead : List Char} {n : Nat} (h : Dimensions s n r)
    (hr : Follows r) (hlead : lead.head?.any (fun c => c ≠ ',' && c ≠ '>') = true)
    (hopen : lead.head? ≠ some '[') : ¬Leads lead s := by
  cases h with
  | none => exact hr.not_leads hlead
  | more hword _ =>
    obtain ⟨l, ls, rfl⟩ := List.exists_cons_of_ne_nil (l := lead) (by rintro rfl; simp at hlead)
    exact not_leads_of_trimStart_eq (trimStart_eq_of_word hword) (by simpa using hopen)

theorem Ident.not_leads_question {ident s r : List Char} (h : Ident ident s r) :
    ¬Leads ['?'] s := by
  rw [← leads_trimStart, h.trimStart_eq]
  exact JavaType.not_leads_question h.ne_nil h.chars

mutual
/-- A spelling is read as the type it spells, if what follows may follow a type. -/
theorem Spells.reads {s r : List Char} {t : JavaType} : Spells s t r → Follows r → Reads s t r
  | .unbounded hq hn, hr =>
    -- Neither of the two words of bounds can follow.
    .unbounded (trimStart_eq_of_word hq) (hn.not_leads hr (by decide) (by decide))
      (hn.not_leads hr (by decide) (by decide)) (hn.brackets hr)
  | .extending hq he hb, hr =>
    .extending (n := 0) (trimStart_eq_of_word hq) (trimStart_eq_of_word he) (hb.reads hr)
      (Dimensions.none.brackets hr)
  | .super hq hs hb, hr => by
    have hbound := hb.reads hr
    have hs := trimStart_eq_of_word hs
    exact .super (n := 0) (trimStart_eq_of_word hq)
      (not_leads_of_trimStart_eq hs (by decide)) hs hbound (Dimensions.none.brackets hr)
  | .typeVar hi hv hn, hr =>
    .typeVar hi.not_leads_question hi.readsIdent hv (hn.brackets hr)
  | .raw hi hv hname hn, hr =>
    .raw hi.not_leads_question hi.readsIdent hv hname
      (hn.not_leads hr (by decide) (by decide)) (hn.brackets hr)
  | .generic hi hv hname ho hargs hclose hn, hr =>
    .generic hi.not_leads_question hi.readsIdent hv hname (trimStart_eq_of_word ho)
      (hargs.readsArguments hclose) (hn.brackets hr)

/-- Arguments and their closing bracket are read. -/
theorem SpellsAll.readsArguments {s r q : List Char} {ts : List JavaType} :
    SpellsAll s ts r → Word ['>'] r q → ReadsArguments s ts q
  | .one ht, hclose => by
    have hread := ht.reads (follows_of_word (.inr rfl) hclose)
    have hclose := trimStart_eq_of_word hclose
    exact .last hread (not_leads_of_trimStart_eq hclose (by decide)) hclose
  | .more ht hcomma hts, hclose =>
    .more (ht.reads (follows_of_word (.inl rfl) hcomma)) (trimStart_eq_of_word hcomma)
      (hts.readsArguments hclose)
end

/-! ## Signatures -/

theorem isSpelling_iff_parse {text : String} {t : JavaType} :
    IsSpelling text.toList t ↔ parse text = .ok t := by
  rw [parse_eq_ok_iff]
  constructor
  · rintro ⟨r, hspells, hblanks⟩
    have hend := blanks_nil_iff.1 hblanks
    have hfollows : Follows r := by
      rw [Follows, hend]
      rfl
    exact ⟨r, hspells.reads hfollows, hend⟩
  · rintro ⟨r, hreads, hend⟩
    exact ⟨r, hreads.spells, blanks_nil_iff.2 hend⟩

/-- A text has at most one type as the one it spells. -/
theorem IsSpelling.unique {s : List Char} {t t' : JavaType} (h : IsSpelling s t)
    (h' : IsSpelling s t') : t = t' := by
  rw [← String.toList_ofList (l := s), isSpelling_iff_parse] at h h'
  exact Except.ok.inj (h.symm.trans h')

/-- An error is about the text that was given. -/
theorem signature_of_parse {text : String} {e : SignatureError} (h : parse text = .error e) :
    e.signature = text := by
  simp only [parse] at h
  split at h
  · exact Except.error.inj h ▸ rfl
  · exact Except.error.inj h ▸ rfl
  · exact Except.error.inj h ▸ rfl
  · split at h
    · exact absurd h (by simp)
    · exact Except.error.inj h ▸ rfl

/-- Every text is read to an end: as the type that it spells, or, if it spells none, with an
    error about this text. -/
theorem parse_eq_ok_iff_isSpelling (text : String) :
    (∀ t, parse text = .ok t ↔ IsSpelling text.toList t) ∧
      ((∃ e, parse text = .error e ∧ e.signature = text) ↔ ∀ t, ¬IsSpelling text.toList t) := by
  refine ⟨fun t => isSpelling_iff_parse.symm, ?_⟩
  constructor
  · rintro ⟨e, he, -⟩ t ht
    exact absurd (he.symm.trans (isSpelling_iff_parse.1 ht)) (by simp)
  · intro hnone
    cases hparse : parse text with
    | ok t => exact absurd (isSpelling_iff_parse.2 hparse) (hnone t)
    | error e => exact ⟨e, rfl, signature_of_parse hparse⟩

example : (parse "? super a.B[]").toOption = some .unbounded := by decide +kernel

end AssertionWriter.JavaType
