/-
  AssertionWriter.Proofs.JavaType.Grammar

  What the reader of signatures accepts, as a relation without proofs of lengths:
  `Reads s t r` says that `t` can be read from the front of `s`, and that `r` is left. The
  reader and the relation agree, so that later proofs look at the relation only.
-/
import AssertionWriter.JavaType.Signature

namespace AssertionWriter.JavaType
open Text

/-! ## Pieces -/

/-- `lead` can be eaten from `s`. -/
abbrev Leads (lead s : List Char) : Prop := lead <+: trimStart s

theorem eat?_of_eq {lead s r : List Char} (hne : lead ≠ []) (h : trimStart s = lead ++ r) :
    ∃ x, eat? lead hne s = some x ∧ x.1 = r := by
  have hafter := after?_eq_some_iff.2 h
  rw [eat?]
  split
  · next hnone => exact absurd (hnone.symm.trans hafter) (by simp)
  · next r' hr' =>
    obtain rfl := Option.some.inj (hr'.symm.trans hafter)
    exact ⟨_, rfl, rfl⟩

theorem eq_of_eat? {lead s : List Char} {hne : lead ≠ []} {x : Shorter s}
    (h : eat? lead hne s = some x) : trimStart s = lead ++ x.1 := by
  rw [eat?] at h
  split at h
  · exact absurd h (by simp)
  · next r hr =>
    obtain rfl := Option.some.inj h
    exact after?_eq_some_iff.1 hr

theorem eat?_eq_none_iff {lead s : List Char} {hne : lead ≠ []} :
    eat? lead hne s = none ↔ ¬Leads lead s := by
  constructor
  · rintro hnone ⟨r, hr⟩
    obtain ⟨_, hsome, -⟩ := eat?_of_eq hne hr.symm
    exact absurd (hnone.symm.trans hsome) (by simp)
  · intro hlead
    rcases heat : eat? lead hne s with _ | x
    · rfl
    · exact absurd ⟨_, (eq_of_eat? heat).symm⟩ hlead

theorem not_leads_of_trimStart_eq {l c : Char} {ls s r : List Char} (h : trimStart s = c :: r)
    (hne : l ≠ c) : ¬Leads (l :: ls) s := by
  rintro ⟨q, hq⟩
  rw [h, List.cons_append, List.cons.injEq] at hq
  exact hne hq.1

/-- The brackets at the front of `s` are `n` pairs, and `r` is left. -/
inductive Brackets : List Char → Nat → List Char → Prop where
  | none {s : List Char} : ¬Leads ['[', ']'] s → Brackets s 0 s
  | more {s r r' : List Char} {n : Nat} :
      trimStart s = ['[', ']'] ++ r → Brackets r n r' → Brackets s (n + 1) r'

theorem brackets_readBrackets (s : List Char) :
    Brackets s (readBrackets s).1 (readBrackets s).2.1 := by
  rw [readBrackets]
  split
  · next hnone => exact .none (eat?_eq_none_iff.1 hnone)
  · next r hr hsome => exact .more (eq_of_eat? hsome) (brackets_readBrackets r)
termination_by s.length

theorem Brackets.readBrackets_eq {s r : List Char} {n : Nat} (h : Brackets s n r) :
    (readBrackets s).1 = n ∧ (readBrackets s).2.1 = r := by
  induction h with
  | none hlead =>
    rw [readBrackets, eat?_eq_none_iff.2 hlead]
    exact ⟨rfl, rfl⟩
  | more heq _ ih =>
    obtain ⟨_, heat, rfl⟩ := eat?_of_eq (by simp) heq
    rw [readBrackets, heat]
    exact ⟨congrArg (· + 1) ih.1, ih.2⟩

/-- No brackets are left behind those that have been read. -/
theorem Brackets.not_leads {s r : List Char} {n : Nat} (h : Brackets s n r) :
    ¬Leads ['[', ']'] r := by
  induction h with
  | none hlead => exact hlead
  | more _ _ ih => exact ih

/-- `ident` is the identifier at the front of `s`, and `r` is left. -/
def ReadsIdent (s ident r : List Char) : Prop :=
  ident ≠ [] ∧ ident = (trimStart s).takeWhile isIdentChar ∧ r = (trimStart s).dropWhile isIdentChar

theorem readsIdent_of_readIdent {s ident : List Char} {r : Shorter s}
    (h : readIdent s = .ok (ident, r)) : ReadsIdent s ident r.1 := by
  rw [readIdent] at h
  split at h
  · exact absurd h (by simp)
  · next c cs hcs =>
    cases h
    exact ⟨by simp, hcs.symm, rfl⟩

theorem ReadsIdent.readIdent_eq {s ident r : List Char} (h : ReadsIdent s ident r) :
    ∃ x, readIdent s = .ok (ident, x) ∧ x.1 = r := by
  obtain ⟨hne, hident, rfl⟩ := h
  rw [readIdent]
  split
  · next hnil => exact absurd (hident.trans hnil) hne
  · next c cs hcs =>
    obtain rfl := hident.trans hcs
    exact ⟨_, rfl, rfl⟩

/-! ## Types -/

mutual
/-- A type can be read from the front of a text, and a text is left. -/
inductive Reads : List Char → JavaType → List Char → Prop where
  | extending {s r r' r'' q : List Char} {b : JavaType} {n : Nat} :
      trimStart s = ['?'] ++ r → trimStart r = "extends ".toList ++ r' → Reads r' b r'' →
      Brackets r'' n q → Reads s (arrays n (.extending b)) q
  | super {s r r' r'' q : List Char} {b : JavaType} {n : Nat} :
      trimStart s = ['?'] ++ r → ¬Leads "extends ".toList r →
      trimStart r = "super ".toList ++ r' → Reads r' b r'' →
      Brackets r'' n q → Reads s (arrays n .unbounded) q
  | unbounded {s r q : List Char} {n : Nat} :
      trimStart s = ['?'] ++ r → ¬Leads "extends ".toList r → ¬Leads "super ".toList r →
      Brackets r n q → Reads s (arrays n .unbounded) q
  | typeVar {s ident r q : List Char} {n : Nat} :
      ¬Leads ['?'] s → ReadsIdent s ident r → isVariable ident = true →
      Brackets r n q → Reads s (arrays n (.typeVar (String.ofList ident))) q
  | raw {s ident r q : List Char} {name : QualifiedName} {n : Nat} :
      ¬Leads ['?'] s → ReadsIdent s ident r → isVariable ident = false →
      QualifiedName.parse? (String.ofList ident) = some name → ¬Leads ['<'] r →
      Brackets r n q → Reads s (arrays n (.named name [])) q
  | generic {s ident r r' r'' q : List Char} {name : QualifiedName} {args : List JavaType}
      {n : Nat} :
      ¬Leads ['?'] s → ReadsIdent s ident r → isVariable ident = false →
      QualifiedName.parse? (String.ofList ident) = some name → trimStart r = ['<'] ++ r' →
      ReadsArguments r' args r'' → Brackets r'' n q → Reads s (arrays n (.named name args)) q

/-- Arguments can be read from the front of a text, with the closing bracket, and a text is left. -/
inductive ReadsArguments : List Char → List JavaType → List Char → Prop where
  | last {s r r' : List Char} {t : JavaType} :
      Reads s t r → ¬Leads [','] r → trimStart r = ['>'] ++ r' → ReadsArguments s [t] r'
  | more {s r r' r'' : List Char} {t : JavaType} {ts : List JavaType} :
      Reads s t r → trimStart r = [','] ++ r' → ReadsArguments r' ts r'' →
      ReadsArguments s (t :: ts) r''
end

/-- Only the text behind the white space counts. -/
theorem Reads.congr {s s' r : List Char} {t : JavaType} (hs : trimStart s = trimStart s')
    (h : Reads s t r) : Reads s' t r := by
  -- Each rule looks at the text in its first premises only.
  cases h with
  | extending h₁ h₂ h₃ h₄ => exact .extending (hs ▸ h₁) h₂ h₃ h₄
  | super h₁ h₂ h₃ h₄ h₅ => exact .super (hs ▸ h₁) h₂ h₃ h₄ h₅
  | unbounded h₁ h₂ h₃ h₄ => exact .unbounded (hs ▸ h₁) h₂ h₃ h₄
  | typeVar h₁ h₂ h₃ h₄ =>
    rw [Leads, hs] at h₁
    rw [ReadsIdent, hs] at h₂
    exact .typeVar h₁ h₂ h₃ h₄
  | raw h₁ h₂ h₃ h₄ h₅ h₆ =>
    rw [Leads, hs] at h₁
    rw [ReadsIdent, hs] at h₂
    exact .raw h₁ h₂ h₃ h₄ h₅ h₆
  | generic h₁ h₂ h₃ h₄ h₅ h₆ h₇ =>
    rw [Leads, hs] at h₁
    rw [ReadsIdent, hs] at h₂
    exact .generic h₁ h₂ h₃ h₄ h₅ h₆ h₇

/-- No brackets are left behind a type. -/
theorem Reads.not_leads {s r : List Char} {t : JavaType} (h : Reads s t r) :
    ¬Leads ['[', ']'] r := by
  cases h with
  | extending _ _ _ hb => exact hb.not_leads
  | super _ _ _ _ hb => exact hb.not_leads
  | unbounded _ _ _ hb => exact hb.not_leads
  | typeVar _ _ _ hb => exact hb.not_leads
  | raw _ _ _ _ _ hb => exact hb.not_leads
  | generic _ _ _ _ _ _ hb => exact hb.not_leads

/-- All brackets behind a type have been read with it. -/
theorem Reads.eq_of_brackets {s r q : List Char} {t : JavaType} {n : Nat} (h : Reads s t r)
    (hn : Brackets r n q) : n = 0 ∧ q = r := by
  cases hn with
  | none _ => exact ⟨rfl, rfl⟩
  | more heq _ => exact absurd ⟨_, heq.symm⟩ h.not_leads

/-! ## The reader follows the relation -/

mutual
/-- What the reader has read can be read. -/
theorem reads_of_readType {s : List Char} {x : JavaType × Shorter s}
    (h : readType s = .ok x) : Reads s x.1 x.2.1 := by
  rw [readType] at h
  -- A wildcard comes first, with its two kinds of bounds, and then what starts with a name.
  split at h
  · next r hr hquestion =>
    have hq := eq_of_eat? hquestion
    split at h
    · next r' hr' hextends =>
      split at h
      · exact absurd h (by simp)
      · next bound r'' hr'' hbound =>
        obtain rfl := Except.ok.inj h
        exact .extending hq (eq_of_eat? hextends) (reads_of_readType hbound)
          (brackets_readBrackets r'')
    · next hextends =>
      have he := eat?_eq_none_iff.1 hextends
      split at h
      · next r' hr' hsuper =>
        split at h
        · exact absurd h (by simp)
        · next bound r'' hr'' hbound =>
          obtain rfl := Except.ok.inj h
          exact .super hq he (eq_of_eat? hsuper) (reads_of_readType hbound)
            (brackets_readBrackets r'')
      · next hsuper =>
        obtain rfl := Except.ok.inj h
        exact .unbounded hq he (eat?_eq_none_iff.1 hsuper) (brackets_readBrackets r)
  · next hquestion =>
    have hq := eat?_eq_none_iff.1 hquestion
    split at h
    · exact absurd h (by simp)
    · next ident r hr hident =>
      have hi := readsIdent_of_readIdent hident
      split at h
      · next hvar =>
        obtain rfl := Except.ok.inj h
        exact .typeVar hq hi hvar (brackets_readBrackets r)
      · next hvar =>
        have hv := Bool.eq_false_iff.2 hvar
        split at h
        · exact absurd h (by simp)
        · next name hname =>
          split at h
          · next hopen =>
            obtain rfl := Except.ok.inj h
            exact .raw hq hi hv hname (eat?_eq_none_iff.1 hopen) (brackets_readBrackets r)
          · next r' hr' hopen =>
            split at h
            · exact absurd h (by simp)
            · next args r'' hr'' hargs =>
              obtain rfl := Except.ok.inj h
              exact .generic hq hi hv hname (eq_of_eat? hopen)
                (readsArguments_of_readArguments hargs) (brackets_readBrackets r'')
termination_by 2 * s.length

theorem readsArguments_of_readArguments {s : List Char} {x : List JavaType × Shorter s}
    (h : readArguments s = .ok x) : ReadsArguments s x.1 x.2.1 := by
  rw [readArguments] at h
  split at h
  · exact absurd h (by simp)
  · next t r hr ht =>
    have hreads := reads_of_readType ht
    split at h
    · next r' hr' hcomma =>
      split at h
      · exact absurd h (by simp)
      · next ts r'' hr'' hts =>
        obtain rfl := Except.ok.inj h
        exact .more hreads (eq_of_eat? hcomma) (readsArguments_of_readArguments hts)
    · next hcomma =>
      split at h
      · next r' hr' hclose =>
        obtain rfl := Except.ok.inj h
        exact .last hreads (eat?_eq_none_iff.1 hcomma) (eq_of_eat? hclose)
      · exact absurd h (by simp)
termination_by 2 * s.length + 1
end

theorem ok_withBrackets {s r : List Char} {t : JavaType} {rest : Shorter s} {n : Nat}
    (h : Brackets rest.1 n r) :
    ∃ x, (Except.ok (withBrackets s t rest) : Except ReadFault _) = .ok (arrays n t, x) ∧
      x.1 = r := by
  obtain ⟨rfl, rfl⟩ := h.readBrackets_eq
  exact ⟨_, rfl, rfl⟩

-- The recursive calls stand first, while the derivation is still the one that is taken apart.
mutual
/-- What can be read the reader reads. -/
theorem Reads.readType_eq {s r : List Char} {t : JavaType} :
    Reads s t r → ∃ x, readType s = .ok (t, x) ∧ x.1 = r
  | .extending hq he hb hn => by
    obtain ⟨z, hz, rfl⟩ := hb.readType_eq
    obtain ⟨x, hx, rfl⟩ := eat?_of_eq (by simp) hq
    obtain ⟨y, hy, rfl⟩ := eat?_of_eq (by simp) he
    rw [readType, hx]
    dsimp only
    split
    · next hsome =>
      obtain rfl := Option.some.inj (hsome.symm.trans hy)
      rw [hz]
      exact ok_withBrackets hn
    · next hnone => exact absurd (hnone.symm.trans hy) (by simp)
  | .super hq he hs hb hn => by
    obtain ⟨z, hz, rfl⟩ := hb.readType_eq
    obtain ⟨x, hx, rfl⟩ := eat?_of_eq (by simp) hq
    obtain ⟨y, hy, rfl⟩ := eat?_of_eq (by simp) hs
    rw [readType, hx]
    dsimp only
    split
    · next hsome => exact absurd (hsome.symm.trans (eat?_eq_none_iff.2 he)) (by simp)
    · rw [hy]
      dsimp only
      rw [hz]
      exact ok_withBrackets hn
  | .unbounded hq he hs hn => by
    obtain ⟨x, hx, rfl⟩ := eat?_of_eq (by simp) hq
    rw [readType, hx]
    dsimp only
    split
    · next hsome => exact absurd (hsome.symm.trans (eat?_eq_none_iff.2 he)) (by simp)
    · split
      · next hsome => exact absurd (hsome.symm.trans (eat?_eq_none_iff.2 hs)) (by simp)
      · exact ok_withBrackets hn
  | .typeVar hq hi hv hn => by
    obtain ⟨x, hx, rfl⟩ := hi.readIdent_eq
    rw [readType, eat?_eq_none_iff.2 hq]
    simp only [hx, hv, if_true]
    exact ok_withBrackets hn
  | .raw hq hi hv hname ho hn => by
    obtain ⟨x, hx, rfl⟩ := hi.readIdent_eq
    rw [readType, eat?_eq_none_iff.2 hq]
    simp only [hx, hv, hname, eat?_eq_none_iff.2 ho, Bool.false_eq_true, if_false]
    exact ok_withBrackets hn
  | .generic hq hi hv hname ho hargs hn => by
    obtain ⟨z, hz, rfl⟩ := hargs.readArguments_eq
    obtain ⟨x, hx, rfl⟩ := hi.readIdent_eq
    obtain ⟨y, hy, rfl⟩ := eat?_of_eq (by simp) ho
    rw [readType, eat?_eq_none_iff.2 hq]
    simp only [hx, hv, hname, hy, hz, Bool.false_eq_true, if_false]
    exact ok_withBrackets hn

theorem ReadsArguments.readArguments_eq {s r : List Char} {ts : List JavaType} :
    ReadsArguments s ts r → ∃ x, readArguments s = .ok (ts, x) ∧ x.1 = r
  | .last ht hc hg => by
    obtain ⟨x, hx, rfl⟩ := ht.readType_eq
    obtain ⟨y, hy, rfl⟩ := eat?_of_eq (by simp) hg
    rw [readArguments, hx]
    simp only [eat?_eq_none_iff.2 hc, hy]
    exact ⟨_, rfl, rfl⟩
  | .more ht hc hts => by
    obtain ⟨x, hx, rfl⟩ := ht.readType_eq
    obtain ⟨z, hz, rfl⟩ := hts.readArguments_eq
    obtain ⟨y, hy, rfl⟩ := eat?_of_eq (by simp) hc
    rw [readArguments, hx]
    simp only [hy, hz]
    exact ⟨_, rfl, rfl⟩
end

/-- The reader reads exactly what the relation says. -/
theorem reads_iff {s r : List Char} {t : JavaType} :
    Reads s t r ↔ ∃ x, readType s = .ok (t, x) ∧ x.1 = r := by
  constructor
  · exact Reads.readType_eq
  · rintro ⟨x, hx, rfl⟩
    exact reads_of_readType hx

/-- A signature is a type with nothing but white space behind it. -/
theorem parse_eq_ok_iff {text : String} {t : JavaType} :
    parse text = .ok t ↔ ∃ r, Reads text.toList t r ∧ trimStart r = [] := by
  constructor
  · intro h
    simp only [parse] at h
    split at h
    · exact absurd h (by simp)
    · exact absurd h (by simp)
    · exact absurd h (by simp)
    · next t' r hr hread =>
      split at h
      · next hend =>
        obtain rfl := Except.ok.inj h
        exact ⟨r, reads_iff.2 ⟨_, hread, rfl⟩, hend⟩
      · exact absurd h (by simp)
  · rintro ⟨r, hread, hend⟩
    obtain ⟨x, hx, rfl⟩ := reads_iff.1 hread
    simp only [parse, hx, hend]

end AssertionWriter.JavaType
