/-
  AssertionWriter.Proofs.Template.Segments

  Filling the holes of a text that is a sequence of texts and holes. The tokens of holes
  are found where the holes are and nowhere else, as long as no text makes an opening brace
  stand behind a dollar sign and no value can; so the filling is that of each hole on its
  own, and the text stays of this kind.
-/
import AssertionWriter.Proofs.Text.Apart
import AssertionWriter.Template.Filling
import AssertionWriter.Template.Layout

namespace AssertionWriter.Template
open Text

/-! ## Tokens -/

theorem mem_setEntry {α β : Type} [DecidableEq α] {k : α} {v : β} {es : List (α × β)} {e : α × β}
    (h : e ∈ setEntry k v es) : e = (k, v) ∨ e ∈ es := by
  induction es with
  | nil => exact .inl (List.mem_singleton.1 h)
  | cons a es ih =>
    rw [setEntry] at h
    split at h
    · exact (List.mem_cons.1 h).imp_right (List.mem_cons_of_mem _)
    · rcases List.mem_cons.1 h with rfl | h
      · exact .inr (List.mem_cons_self ..)
      · exact (ih h).imp_right (List.mem_cons_of_mem _)

namespace Hole

theorem name_inj {h k : Hole} (heq : h.name = k.name) : h = k := by
  have hall : (all.all fun h => all.all fun k => h.name ≠ k.name || h = k) = true := by
    decide
  have hpair := List.all_eq_true.1 (List.all_eq_true.1 hall h (mem_all h)) k (mem_all k)
  simpa [heq] using hpair

/-- Whether a character may stand in the name of a hole. -/
def isNameOnly (c : Char) : Bool := c ≠ '$' && c ≠ '\x7d' && c ≠ '\n' && c ≠ 'O'

theorem isNameOnly_of_mem_name {h : Hole} {c : Char} (hc : c ∈ h.name.toList) :
    isNameOnly c = true := by
  have hall : (h.name.toList.all isNameOnly) = true := by cases h <;> decide
  exact List.all_eq_true.1 hall c hc

theorem not_mem_name {x : Char} (hx : isNameOnly x = false) (h : Hole) : x ∉ h.name.toList := by
  intro hmem
  rw [isNameOnly_of_mem_name hmem] at hx
  exact absurd hx (by simp)

theorem toList_token (h : Hole) :
    h.token.toList = '$' :: '\x7b' :: (h.name.toList ++ ['\x7d']) := by
  simp [token]

/-- The brace at its end tells where a token ends, so no other one can stand in its place. -/
theorem eq_of_prefix_token {h k : Hole} {r : List Char}
    (hp : k.token.toList <+: h.token.toList ++ r) : k = h := by
  have hbrace : ∀ (h : Hole) (r : List Char),
      ((h.name.toList ++ ['\x7d']) ++ r).takeWhile (· ≠ '\x7d') = h.name.toList := by
    intro h r
    have hname : ∀ c ∈ h.name.toList, decide (c ≠ '\x7d') = true := fun c hc =>
      decide_eq_true (ne_of_mem_of_not_mem hc (not_mem_name (by decide) h))
    rw [List.append_assoc, List.takeWhile_append_of_pos hname]
    simp
  obtain ⟨t, ht⟩ := hp
  simp only [toList_token, List.cons_append, List.cons.injEq, true_and] at ht
  have htake := congrArg (List.takeWhile (· ≠ '\x7d')) ht
  rw [hbrace, hbrace] at htake
  exact name_inj (String.toList_inj.1 htake)

end Hole

/-! ## Sequences -/

/-- The text of a sequence of texts and holes. -/
def joined (segs : List Segment) : List Char := segs.flatMap (·.toText.toList)

@[simp] theorem joined_nil : joined [] = [] := rfl

@[simp] theorem joined_cons (g : Segment) (segs : List Segment) :
    joined (g :: segs) = g.toText.toList ++ joined segs := rfl

@[simp] theorem joined_append (segs segs' : List Segment) :
    joined (segs ++ segs') = joined segs ++ joined segs' := by
  simp [joined]

theorem toList_join_toText (segs : List Segment) :
    (String.join (segs.map Segment.toText)).toList = joined segs := by
  rw [String.toList_join, List.flatMap_map]
  rfl

theorem Layout.toList_toText (l : Layout) : l.toText.toList = joined l.segments :=
  toList_join_toText l.segments

/-- The holes that stand for whole lines or for the rest of one. -/
def Hole.isBlock (h : Hole) : Bool := h = imports || h = entryPoints

/-- Whether `bad` stands behind `mark` in no text of a sequence, and can neither stand behind a
    hole nor behind what fills it. A hole stands behind `mark` only if it is that of a block. -/
def isSealed (mark bad : Char) : Bool → List Segment → Bool
  | _, [] => true
  | behind, .text s :: segs =>
    isApart mark bad behind s.toList && isSealed mark bad (isBehind mark behind s.toList) segs
  | behind, .hole h :: segs => (!behind || h.isBlock) && isSealed mark bad true segs

variable {mark bad : Char}

theorem isSealed_of_isSealed_true {segs : List Segment} (h : isSealed mark bad true segs = true)
    (behind : Bool) : isSealed mark bad behind segs = true := by
  cases behind with
  | true => exact h
  | false =>
    induction segs with
    | nil => rfl
    | cons g segs ih =>
      cases g with
      | text s =>
        rw [isSealed, Bool.and_eq_true] at h ⊢
        refine ⟨isApart_of_isApart_true h.1 false, ?_⟩
        -- Behind a text that is not empty it no longer matters where the sequence started.
        cases hs : s.toList with
        | nil => exact ih (by simpa [hs, isBehind] using h.2)
        | cons c cs => simpa [hs, isBehind] using h.2
      | hole k =>
        rw [isSealed, Bool.and_eq_true] at h ⊢
        exact ⟨rfl, h.2⟩

/-- Where `mark` stands at the end of a sequence, if it does at all. -/
def mayEndBehind (mark : Char) : Bool → List Segment → Bool
  | behind, [] => behind
  | behind, .text s :: segs => mayEndBehind mark (isBehind mark behind s.toList) segs
  | _, .hole _ :: segs => mayEndBehind mark true segs

theorem mayEndBehind_append (behind : Bool) (segs segs' : List Segment) :
    mayEndBehind mark behind (segs ++ segs') =
      mayEndBehind mark (mayEndBehind mark behind segs) segs' := by
  induction segs generalizing behind with
  | nil => rfl
  | cons g segs ih =>
    cases g with
    | text s => exact ih _
    | hole k => exact ih _

theorem isSealed_append (behind : Bool) (segs segs' : List Segment) :
    isSealed mark bad behind (segs ++ segs') =
      (isSealed mark bad behind segs &&
        isSealed mark bad (mayEndBehind mark behind segs) segs') := by
  induction segs generalizing behind with
  | nil => simp [isSealed, mayEndBehind]
  | cons g segs ih =>
    cases g with
    | text s => rw [List.cons_append, isSealed, isSealed, mayEndBehind, ih, Bool.and_assoc]
    | hole h => rw [List.cons_append, isSealed, isSealed, mayEndBehind, ih, Bool.and_assoc]

/-- In a sequence of texts alone the two characters are apart. -/
theorem isApart_joined {behind : Bool} {segs : List Segment}
    (htext : ∀ g ∈ segs, ∃ s, g = .text s) (h : isSealed mark bad behind segs = true) :
    isApart mark bad behind (joined segs) = true := by
  induction segs generalizing behind with
  | nil => rfl
  | cons g segs ih =>
    obtain ⟨s, rfl⟩ := htext g (by simp)
    rw [isSealed, Bool.and_eq_true] at h
    rw [joined_cons, isApart_append, Bool.and_eq_true]
    exact ⟨h.1, ih (fun g hg => htext g (List.mem_cons_of_mem _ hg)) h.2⟩

theorem isBehind_joined {behind : Bool} {segs : List Segment}
    (htext : ∀ g ∈ segs, ∃ s, g = .text s) :
    isBehind mark behind (joined segs) = mayEndBehind mark behind segs := by
  induction segs generalizing behind with
  | nil => rfl
  | cons g segs ih =>
    obtain ⟨s, rfl⟩ := htext g (by simp)
    rw [joined_cons, isBehind_append, mayEndBehind]
    exact ih fun g hg => htext g (List.mem_cons_of_mem _ hg)

/-! ## Filling -/

/-- A segment with its hole filled, if there is a value for it. -/
def Segment.fillBy (value? : Hole → Option String) : Segment → Segment
  | .text s => .text s
  | .hole h => (value? h).elim (.hole h) .text

/-- The holes of a sequence. -/
def holesOf (segs : List Segment) : List Hole :=
  segs.filterMap fun
    | .text _ => none
    | .hole h => some h

theorem mem_holesOf {h : Hole} {segs : List Segment} : h ∈ holesOf segs ↔ .hole h ∈ segs := by
  rw [holesOf, List.mem_filterMap]
  constructor
  · rintro ⟨g, hg, hh⟩
    cases g with
    | text s => exact absurd hh (by simp)
    | hole k => rwa [← Option.some.inj hh]
  · intro hh
    exact ⟨.hole h, hh, rfl⟩

theorem holesOf_append (segs segs' : List Segment) :
    holesOf (segs ++ segs') = holesOf segs ++ holesOf segs' := List.filterMap_append

/-- The holes of a template are those of its lines. -/
theorem Layout.mem_holesOf_segments {l : Layout} {h : Hole} :
    h ∈ holesOf l.segments ↔ ∃ line ∈ l, h ∈ holesOf line := by
  simp only [mem_holesOf, Layout.segments, List.mem_flatMap, List.mem_append, List.mem_singleton,
    reduceCtorEq, or_false]

/-- The holes without values are left. -/
theorem mem_holesOf_fillBy {value? : Hole → Option String} {h : Hole} {segs : List Segment} :
    h ∈ holesOf (segs.map (Segment.fillBy value?)) ↔ h ∈ holesOf segs ∧ value? h = none := by
  rw [mem_holesOf, mem_holesOf, List.mem_map]
  constructor
  · rintro ⟨g, hg, hh⟩
    cases g with
    | text s => exact absurd hh (by simp [Segment.fillBy])
    | hole k =>
      rw [Segment.fillBy] at hh
      cases hk : value? k with
      | none =>
        rw [hk] at hh
        obtain rfl := Segment.hole.inj hh
        exact ⟨hg, hk⟩
      | some v =>
        rw [hk] at hh
        exact absurd hh (by simp)
  · rintro ⟨hh, hnone⟩
    exact ⟨.hole h, hh, by rw [Segment.fillBy, hnone]; rfl⟩

/-- A character comes into a text only with the values of its holes. -/
theorem not_mem_joined_fillBy {x : Char} {value? : Hole → Option String} {segs : List Segment}
    (h : x ∉ joined segs) (hv : ∀ k ∈ holesOf segs, ∀ v, value? k = some v → x ∉ v.toList) :
    x ∉ joined (segs.map (Segment.fillBy value?)) := by
  simp only [joined, List.mem_flatMap, List.mem_map, not_exists, not_and] at h ⊢
  rintro _ ⟨g, hg, rfl⟩ hx
  cases g with
  | text s => exact h _ hg hx
  | hole k =>
    rw [Segment.fillBy] at hx
    cases hk : value? k with
    | none =>
      rw [hk] at hx
      exact h _ hg hx
    | some v =>
      rw [hk] at hx
      exact hv k (mem_holesOf.2 hg) v hk hx

/-- Two fillings one after the other are one. -/
theorem fillBy_fillBy (value? value'? : Hole → Option String) (g : Segment) :
    (g.fillBy value?).fillBy value'? = g.fillBy fun h => (value? h).or (value'? h) := by
  cases g with
  | text s => rfl
  | hole h =>
    rw [Segment.fillBy, Segment.fillBy]
    cases value? h with
    | none => rfl
    | some v => rfl

/-- A sequence without holes is one of texts. -/
theorem exists_text_of_holesOf {segs : List Segment} (h : ∀ k, k ∉ holesOf segs) :
    ∀ g ∈ segs, ∃ s, g = .text s := by
  intro g hg
  cases g with
  | text s => exact ⟨s, rfl⟩
  | hole k => exact absurd (mem_holesOf.2 hg) (h k)

/-- Values that can be put into sealed sequences. -/
def AreApart (mark bad : Char) (value? : Hole → Option String) : Prop :=
  ∀ h v, value? h = some v → isApart mark bad h.isBlock v.toList = true

/-- What is sealed stays so. -/
theorem isSealed_fillBy {value? : Hole → Option String} (hv : AreApart mark bad value?)
    {behind : Bool} {segs : List Segment} (h : isSealed mark bad behind segs = true) :
    isSealed mark bad behind (segs.map (Segment.fillBy value?)) = true := by
  induction segs generalizing behind with
  | nil => rfl
  | cons g segs ih =>
    cases g with
    | text s =>
      rw [isSealed, Bool.and_eq_true] at h
      rw [List.map_cons, Segment.fillBy, isSealed, Bool.and_eq_true]
      exact ⟨h.1, ih h.2⟩
    | hole k =>
      rw [isSealed, Bool.and_eq_true] at h
      rw [List.map_cons, Segment.fillBy]
      cases hk : value? k with
      | none =>
        rw [Option.elim_none, isSealed, Bool.and_eq_true]
        exact ⟨h.1, ih h.2⟩
      | some v =>
        rw [Option.elim_some, isSealed, Bool.and_eq_true]
        refine ⟨?_, isSealed_of_isSealed_true (ih h.2) _⟩
        have hapart := hv k v hk
        -- Only the hole of a block may stand behind the mark, and so may its value.
        cases behind with
        | false =>
          cases hblock : k.isBlock with
          | false => rwa [hblock] at hapart
          | true => exact isApart_of_isApart_true (hblock ▸ hapart) false
        | true =>
          have hblock : k.isBlock = true := by simpa using h.1
          rwa [hblock] at hapart

/-- Behind a dollar sign no brace opens a sealed sequence. -/
theorem head?_joined_ne {segs : List Segment} (h : isSealed '$' '\x7b' true segs = true) :
    (joined segs).head? ≠ some '\x7b' := by
  induction segs with
  | nil => simp
  | cons g segs ih =>
    cases g with
    | text s =>
      rw [isSealed, Bool.and_eq_true] at h
      rw [joined_cons, Segment.toText]
      cases hs : s.toList with
      | nil => exact ih (by simpa [hs, isBehind] using h.2)
      | cons c cs =>
        have hc := h.1
        simp only [hs, isApart, Bool.true_and, Bool.and_eq_true] at hc
        simpa using hc.1
    | hole k => simp [Segment.toText, Hole.toList_token]

/-- No token starts in a sealed text. -/
theorem replaceAll_token_append {k : Hole} {value s r : List Char} {behind : Bool}
    (hs : isApart '$' '\x7b' behind s = true)
    (hr : isBehind '$' behind s = true → r.head? ≠ some '\x7b') :
    replaceAll k.token.toList value (s ++ r) = s ++ replaceAll k.token.toList value r := by
  induction s generalizing behind with
  | nil => rfl
  | cons c cs ih =>
    rw [isApart, Bool.and_eq_true] at hs
    have hpre : k.token.toList.isPrefixOf (c :: (cs ++ r)) = false := by
      rw [Bool.eq_false_iff]
      intro hp
      obtain ⟨t, ht⟩ := List.isPrefixOf_iff_prefix.1 hp
      rw [Hole.toList_token, List.cons_append, List.cons_append, List.cons.injEq] at ht
      obtain ⟨rfl, ht⟩ := ht
      -- The brace stands in the text, or else behind it.
      cases cs with
      | nil =>
        rw [List.nil_append] at ht
        exact hr rfl (by simp [← ht])
      | cons d ds =>
        rw [List.cons_append, List.cons.injEq] at ht
        have hd := hs.2
        simp [isApart, ← ht.1] at hd
    rw [List.cons_append, replaceAll_cons hpre, ih hs.2 hr, List.cons_append]

/-- The tokens of other holes are passed over. -/
theorem replaceAll_token_append_token {h k : Hole} (hne : k ≠ h) (value r : List Char) :
    replaceAll k.token.toList value (h.token.toList ++ r) =
      h.token.toList ++ replaceAll k.token.toList value r := by
  have hpre : k.token.toList.isPrefixOf (h.token.toList ++ r) = false := by
    rw [Bool.eq_false_iff]
    exact fun hp => hne (Hole.eq_of_prefix_token (List.isPrefixOf_iff_prefix.1 hp))
  -- Behind its first character a token has no dollar sign.
  have hdollar : '$' ∉ '\x7b' :: (h.name.toList ++ ['\x7d']) := by
    simp only [List.mem_cons, List.mem_append, not_or]
    exact ⟨by decide, Hole.not_mem_name (by decide) h, by decide, by simp⟩
  -- So no other token can start within it.
  have hbody : ∀ s : List Char, '$' ∉ s →
      replaceAll k.token.toList value (s ++ r) = s ++ replaceAll k.token.toList value r := by
    intro s hs
    induction s with
    | nil => rfl
    | cons c cs ih =>
      rw [List.mem_cons, not_or] at hs
      have hc : k.token.toList.isPrefixOf (c :: (cs ++ r)) = false := by
        rw [Hole.toList_token, List.isPrefixOf, Bool.and_eq_false_iff]
        exact .inl (by simpa using hs.1)
      rw [List.cons_append, replaceAll_cons hc, ih hs.2, List.cons_append]
  rw [Hole.toList_token h, List.cons_append] at hpre ⊢
  rw [replaceAll_cons hpre, hbody _ hdollar]
  rfl

/-- No token starts in a text of a sequence, so replacing passes over the texts. -/
def IsClear : List Segment → Prop
  | [] => True
  | .text s :: segs =>
    (∀ (k : Hole) (value : List Char), replaceAll k.token.toList value (s.toList ++ joined segs) =
      s.toList ++ replaceAll k.token.toList value (joined segs)) ∧ IsClear segs
  | .hole _ :: segs => IsClear segs

theorem isClear_of_isSealed {behind : Bool} {segs : List Segment}
    (h : isSealed '$' '\x7b' behind segs = true) : IsClear segs := by
  induction segs generalizing behind with
  | nil => trivial
  | cons g segs ih =>
    cases g with
    | text s =>
      rw [isSealed, Bool.and_eq_true] at h
      exact ⟨fun k value => replaceAll_token_append h.1 fun hb => head?_joined_ne (hb ▸ h.2), ih h.2⟩
    | hole j =>
      rw [isSealed, Bool.and_eq_true] at h
      exact ih h.2

/-- Replacing the tokens of one hole fills that hole. -/
theorem replaceAll_joined {k : Hole} {v : String} {segs : List Segment} (h : IsClear segs) :
    replaceAll k.token.toList v.toList (joined segs) =
      joined (segs.map (Segment.fillBy fun h => if h = k then some v else none)) := by
  induction segs with
  | nil => rfl
  | cons g segs ih =>
    cases g with
    | text s =>
      obtain ⟨hs, hsegs⟩ := h
      rw [joined_cons, Segment.toText, hs, ih hsegs]
      rfl
    | hole j =>
      rw [joined_cons, Segment.toText, List.map_cons, joined_cons, Segment.fillBy]
      -- The token of the hole itself is replaced, and that of any other one stays.
      by_cases hj : j = k
      · subst hj
        rw [if_pos rfl, replaceAll_append (by simp [Hole.toList_token]), ih h]
        rfl
      · rw [if_neg hj, replaceAll_token_append_token (Ne.symm hj), ih h]
        rfl

/-- One entry fills its hole after the other; those that are left fill the holes that no entry
    before filled. `P` is what keeps the texts clear and what no entry breaks. -/
theorem foldl_fillHole_joined {P : List Segment → Prop} {es : List (Hole × String)}
    {segs : List Segment} (hclear : ∀ segs, P segs → IsClear segs)
    (hkeep : ∀ e ∈ es, ∀ segs, P segs →
      P (segs.map (Segment.fillBy fun h => if h = e.1 then some e.2 else none)))
    (hsegs : P segs) :
    es.foldl Filling.fillHole (joined segs) =
      joined (segs.map (Segment.fillBy fun h => es.lookup h)) := by
  induction es generalizing segs with
  | nil =>
    have hid : (Segment.fillBy fun h => ([] : List (Hole × String)).lookup h) = id := by
      funext g
      cases g <;> rfl
    rw [hid, List.map_id, List.foldl_nil]
  | cons e es ih =>
    have hboth : (fun h => (if h = e.1 then some e.2 else none).or (es.lookup h)) =
        fun h => (e :: es).lookup h := by
      funext h
      rw [lookup_cons]
      split <;> rfl
    rw [List.foldl_cons, Filling.fillHole, replaceAll_joined (hclear segs hsegs),
      ih (fun e he => hkeep e (List.mem_cons_of_mem _ he)) (hkeep e (by simp) segs hsegs),
      List.map_map, ← hboth]
    exact congrArg joined (List.map_congr_left fun g _ => fillBy_fillBy _ _ g)

/-- Filling a sealed sequence fills each hole on its own. -/
theorem Filling.toList_fill {f : Filling}
    (hv : ∀ e ∈ f.entries, isApart '$' '\x7b' e.1.isBlock e.2.toList = true) {text : String}
    {segs : List Segment} (h : isSealed '$' '\x7b' false segs = true)
    (htext : text.toList = joined segs) :
    (f.fill text).toList = joined (segs.map (Segment.fillBy f.get?)) := by
  have hone : ∀ e ∈ f.entries,
      AreApart '$' '\x7b' fun h => if h = e.1 then some e.2 else none := by
    intro e he h v hv'
    rw [Option.ite_none_right_eq_some, Option.some.injEq] at hv'
    obtain ⟨rfl, rfl⟩ := hv'
    exact hv e he
  rw [fill, String.toList_ofList, htext,
    foldl_fillHole_joined (fun _ => isClear_of_isSealed)
      (fun e he _ hsegs => isSealed_fillBy (hone e he) hsegs) h]
  rfl

/-! ## Lists of values -/

namespace Filling

/-- Of the values for one hole the last counts. -/
theorem get?_ofList (es : List (Hole × String)) (h : Hole) :
    (ofList es).get? h = es.reverse.lookup h := by
  have hfold : ∀ (es : List (Hole × String)) (f : Filling),
      (es.foldl (fun f e => f.set e.1 e.2) f).get? h = (es.reverse.lookup h).or (f.get? h) := by
    intro es
    induction es with
    | nil => intro f; rfl
    | cons e es ih =>
      intro f
      rw [List.foldl_cons, ih, get?_set, List.reverse_cons, List.lookup_append, lookup_cons,
        Option.or_assoc]
      split <;> rfl
  rw [ofList, hfold, get?_empty, Option.or_none]

theorem get?_ofList_eq_none_iff {es : List (Hole × String)} {h : Hole} :
    (ofList es).get? h = none ↔ h ∉ es.map (·.1) := by
  rw [get?_ofList, List.lookup_eq_none_iff]
  simp only [List.mem_reverse, List.mem_map, not_exists, not_and, bne_iff_ne, ne_eq]
  constructor
  · intro hne e he heq
    exact hne e he heq.symm
  · intro hne e he heq
    exact hne e he heq.symm

theorem mem_of_mem_ofList {es : List (Hole × String)} {e : Hole × String}
    (he : e ∈ (ofList es).entries) : e ∈ es := by
  refine List.foldlRecOn (motive := fun f : Filling => e ∈ f.entries → e ∈ es) es _ ?_ ?_ he
  · intro he
    exact absurd he (by simp [empty])
  · intro f hf a ha he
    rcases mem_setEntry he with rfl | he
    · exact ha
    · exact hf he

theorem mem_of_get?_ofList {es : List (Hole × String)} {h : Hole} {v : String}
    (hv : (ofList es).get? h = some v) : (h, v) ∈ es :=
  mem_of_mem_ofList (get?_eq_some_iff.1 hv)

end Filling
end AssertionWriter.Template
