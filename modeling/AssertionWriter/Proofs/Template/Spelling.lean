/-
  AssertionWriter.Proofs.Template.Spelling

  The lines of templates with their texts spelled out, character by character, so that
  what is to be known of all templates can be computed: that their lines are sealed, hold
  no line feed and do not start like the declaration of a package or a class.
-/
import AssertionWriter.Proofs.Template.Segments
import AssertionWriter.Proofs.Text.Characters

namespace AssertionWriter.Template
open Text

/-! ## Spelling -/

/-- A piece of a template with its text spelled out. -/
inductive Piece where
  | chars (cs : List Char)
  | hole (h : Hole)
  deriving DecidableEq

/-- The spelling of a text that is written in one or several parts. -/
inductive Spelled : String → List Char → Prop where
  | chars {cs : List Char} : Spelled (String.ofList cs) cs
  | append {s t : String} {cs ds : List Char} :
      Spelled s cs → Spelled t ds → Spelled (s ++ t) (cs ++ ds)

/-- The spelling of a line. -/
inductive SpelledLine : Line → List Piece → Prop where
  | nil : SpelledLine [] []
  | text {s : String} {cs : List Char} {line : Line} {ps : List Piece} :
      Spelled s cs → SpelledLine line ps → SpelledLine (.text s :: line) (.chars cs :: ps)
  | hole {h : Hole} {line : Line} {ps : List Piece} :
      SpelledLine line ps → SpelledLine (.hole h :: line) (.hole h :: ps)

/-- The spelling of a template. -/
inductive SpelledLayout : Layout → List (List Piece) → Prop where
  | nil : SpelledLayout [] []
  | cons {line : Line} {ps : List Piece} {l : Layout} {lines : List (List Piece)} :
      SpelledLine line ps → SpelledLayout l lines → SpelledLayout (line :: l) (ps :: lines)

theorem Spelled.toList_eq {s : String} {cs : List Char} (h : Spelled s cs) : s.toList = cs := by
  induction h with
  | chars => exact String.toList_ofList
  | append _ _ ihs iht => rw [String.toList_append, ihs, iht]

theorem SpelledLayout.exists_of_mem {l : Layout} {lines : List (List Piece)}
    (h : SpelledLayout l lines) {line : Line} (hline : line ∈ l) :
    ∃ ps ∈ lines, SpelledLine line ps := by
  induction h with
  | nil => exact absurd hline (by simp)
  | cons hfirst _ ih =>
    rcases List.mem_cons.1 hline with rfl | hline
    · exact ⟨_, List.mem_cons_self .., hfirst⟩
    · obtain ⟨ps, hps, hspelled⟩ := ih hline
      exact ⟨ps, List.mem_cons_of_mem _ hps, hspelled⟩

/-! ## What is computed -/

/-- Whether a line is sealed. -/
def Piece.isSealed (mark bad : Char) : Bool → List Piece → Bool
  | _, [] => true
  | behind, .chars cs :: ps =>
    isApart mark bad behind cs && isSealed mark bad (isBehind mark behind cs) ps
  | behind, .hole h :: ps => (!behind || h.isBlock) && isSealed mark bad true ps

theorem SpelledLine.isSealed_eq {line : Line} {ps : List Piece} (h : SpelledLine line ps)
    {mark bad : Char} (behind : Bool) :
    Template.isSealed mark bad behind line = Piece.isSealed mark bad behind ps := by
  induction h generalizing behind with
  | nil => rfl
  | text hs _ ih => rw [Template.isSealed, Piece.isSealed, hs.toList_eq, ih]
  | hole _ ih => rw [Template.isSealed, Piece.isSealed, ih]

/-- Whether a character stands in no text of a line. -/
def Piece.lacks (x : Char) (ps : List Piece) : Bool :=
  ps.all fun
    | .chars cs => !cs.contains x
    | .hole _ => true

theorem SpelledLine.not_mem_joined {line : Line} {ps : List Piece} (h : SpelledLine line ps)
    {x : Char} (hx : ∀ k : Hole, x ∉ k.token.toList) (hl : Piece.lacks x ps = true) :
    x ∉ joined line := by
  induction h with
  | nil => simp
  | text hs _ ih =>
    rw [Piece.lacks, List.all_cons, Bool.and_eq_true] at hl
    rw [joined_cons, List.mem_append, not_or, Segment.toText, hs.toList_eq]
    exact ⟨by simpa using hl.1, ih hl.2⟩
  | hole _ ih =>
    rw [Piece.lacks, List.all_cons, Bool.and_eq_true] at hl
    rw [joined_cons, List.mem_append, not_or, Segment.toText]
    exact ⟨hx _, ih hl.2⟩

theorem Hole.not_mem_token {x : Char} (hx : isNameOnly x = false)
    (hmarks : x ∉ ['$', '\x7b', '\x7d']) (h : Hole) : x ∉ h.token.toList := by
  simp only [List.mem_cons, List.not_mem_nil, or_false, not_or] at hmarks
  simp [toList_token, hmarks, not_mem_name hx h]

/-! ## Declarations of packages -/

/-- Whether a line starts in a way in which a declaration of the package could start. -/
def Piece.mayDeclarePackage : List Piece → Bool
  | .chars cs :: _ =>
    match trimStart cs with
    | [] => true
    | [c] => c = 'p'
    | c :: d :: _ => c = 'p' && d = 'a'
  | _ => false

theorem trimStart_append {s : List Char} (h : trimStart s ≠ []) (t : List Char) :
    trimStart (s ++ t) = trimStart s ++ t := by
  induction s with
  | nil => exact absurd rfl h
  | cons c cs ih =>
    rw [trimStart, List.cons_append, List.dropWhile_cons]
    cases hc : isBlank c with
    | true =>
      have hcs : trimStart (c :: cs) = trimStart cs := by
        rw [trimStart, List.dropWhile_cons_of_pos hc]
        rfl
      rw [hcs] at h ⊢
      exact ih h
    | false =>
      have hcs : trimStart (c :: cs) = c :: cs := by
        rw [trimStart, List.dropWhile_cons_of_neg (by simp [hc])]
      rw [hcs]
      rfl

theorem trim_prefix_trimStart (s : List Char) : trim s <+: trimStart s := by
  obtain ⟨t, ht⟩ := List.dropWhile_suffix isBlank (l := (trimStart s).reverse)
  refine ⟨t.reverse, ?_⟩
  rw [trim, trimEnd, ← List.reverse_append, ht, List.reverse_reverse]

theorem lead_of_trim_eq {s : List Char} (h : trim s = packageLine.toList) :
    ['p', 'a'] <+: trimStart s := by
  have hlead : ['p', 'a'] <+: packageLine.toList := by
    rw [packageLine, String.append_assoc, String.toList_append]
    exact ⟨['c', 'k', 'a', 'g', 'e', ' '] ++ (Hole.package.token ++ ";").toList, rfl⟩
  exact (h ▸ hlead).trans (trim_prefix_trimStart s)

/-- What stands behind a line does not make it declare the package. -/
theorem SpelledLine.trim_ne_packageLine {line : Line} {ps : List Piece} (h : SpelledLine line ps)
    (hp : Piece.mayDeclarePackage ps = false) :
    trim (joined line ++ ['\n']) ≠ packageLine.toList := by
  intro heq
  obtain ⟨r, hr⟩ := lead_of_trim_eq heq
  cases h with
  | nil =>
    have hnil : trimStart (joined [] ++ ['\n']) = [] := by decide
    rw [hnil] at hr
    exact absurd hr (by simp)
  | @text s cs line ps hs _ =>
    rw [joined_cons, Segment.toText, hs.toList_eq, List.append_assoc] at hr
    rw [Piece.mayDeclarePackage] at hp
    split at hp
    · exact absurd hp (by simp)
    · next c hc =>
      rw [trimStart_append (by simp [hc]), hc] at hr
      simp only [List.cons_append, List.cons.injEq] at hr
      simp [← hr.1] at hp
    · next c d more hc =>
      rw [trimStart_append (by simp [hc]), hc] at hr
      simp only [List.cons_append, List.cons.injEq] at hr
      simp [← hr.1, ← hr.2.1] at hp
  | @hole k line ps _ =>
    rw [joined_cons, Segment.toText, Hole.toList_token] at hr
    simp only [List.cons_append] at hr
    rw [trimStart_cons (by decide), List.cons.injEq] at hr
    exact absurd hr.1 (by decide)

end AssertionWriter.Template
