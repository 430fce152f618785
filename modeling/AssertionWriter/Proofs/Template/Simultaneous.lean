/-
  AssertionWriter.Proofs.Template.Simultaneous

  Texts and values without dollar signs. A token has only one, at its start, so neither such
  a text nor such a value can hold the start of a token: not alone, not with what stands
  behind it, and not where a value has taken the place of a token. The filling of one hole
  after the other is then the filling of all of them at once, in whatever order.
-/
import AssertionWriter.Proofs.Template.Segments

namespace AssertionWriter.Template
open Text

/-! ## Plain sequences -/

/-- No text of a sequence holds a dollar sign; those of the holes are the only ones. -/
def IsPlain (segs : List Segment) : Prop := ∀ s : String, .text s ∈ segs → '$' ∉ s.toList

variable {segs : List Segment}

theorem isClear_of_isPlain (h : IsPlain segs) : IsClear segs := by
  induction segs with
  | nil => trivial
  | cons g segs ih =>
    have hrest : IsClear segs := ih fun s hs => h s (List.mem_cons_of_mem _ hs)
    cases g with
    | text s =>
      -- No token starts in the text, and none starts at its end to go on behind it.
      have hs : '$' ∉ s.toList := h s (by simp)
      refine ⟨fun k value => ?_, hrest⟩
      refine replaceAll_token_append (isApart_false_of_not_mem hs) fun hbehind => ?_
      rw [isBehind_false_of_not_mem hs] at hbehind
      exact absurd hbehind (by decide)
    | hole k => exact hrest

/-- What is plain stays so when its holes are filled with texts without dollar signs. -/
theorem IsPlain.fillBy {value? : Hole → Option String} (h : IsPlain segs)
    (hvalues : ∀ k v, value? k = some v → '$' ∉ v.toList) :
    IsPlain (segs.map (Segment.fillBy value?)) := by
  intro s hs
  obtain ⟨g, hg, heq⟩ := List.mem_map.1 hs
  cases g with
  | text t =>
    obtain rfl := Segment.text.inj heq
    exact h t hg
  | hole k =>
    rw [Segment.fillBy] at heq
    cases hk : value? k with
    | none => simp [hk] at heq
    | some v =>
      rw [hk, Option.elim_some, Segment.text.injEq] at heq
      exact hvalues k s (heq ▸ hk)

/-! ## Filling -/

namespace Filling

/-- No value holds a dollar sign. -/
def IsPlain (f : Filling) : Prop := ∀ h v, f.get? h = some v → '$' ∉ v.toList

variable {f f' : Filling}

theorem isPlain_iff : f.IsPlain ↔ ∀ e ∈ f.entries, '$' ∉ e.2.toList := by
  rw [Prod.forall]
  exact forall₂_congr fun h v => imp_congr_left get?_eq_some_iff

theorem toList_fill_of_isPlain (hf : f.IsPlain) (hsegs : Template.IsPlain segs) {text : String}
    (htext : text.toList = joined segs) :
    (f.fill text).toList = joined (segs.map (Segment.fillBy f.get?)) := by
  rw [fill, String.toList_ofList, htext]
  refine foldl_fillHole_joined (fun _ => isClear_of_isPlain) (fun e he segs hsegs => ?_) hsegs
  refine hsegs.fillBy fun k v hv => ?_
  rw [Option.ite_none_right_eq_some, Option.some.injEq] at hv
  obtain ⟨rfl, rfl⟩ := hv
  exact isPlain_iff.1 hf e he

/-- The order of the entries that are set does not matter, if there is one for each hole. -/
theorem get?_ofList_of_perm {es : List (Hole × String)} (h : es.Perm f.entries) :
    (ofList es).get? = f.get? := by
  have hperm : es.reverse.Perm f.entries := (List.reverse_perm es).trans h
  have hnodup : (es.reverse.map (·.1)).Nodup := (hperm.map _).nodup_iff.2 f.distinct
  funext k
  refine Option.ext fun v => ?_
  rw [get?_ofList, lookup_eq_some_iff_mem hnodup, get?_eq_some_iff, hperm.mem_iff]

/-- Holes that are filled one after the other are filled at once, each with its own value; so
    fillings with the same values give the same text, in whatever order these were set. -/
theorem fill_join (hf : f.IsPlain) (hsegs : Template.IsPlain segs) :
    f.fill (String.join (segs.map Segment.toText)) =
        String.join (segs.map fun g => (g.fillBy f.get?).toText) ∧
      (∀ f' : Filling, f'.get? = f.get? →
        f'.fill (String.join (segs.map Segment.toText)) =
          f.fill (String.join (segs.map Segment.toText))) ∧
      ∀ es : List (Hole × String), es.Perm f.entries →
        (ofList es).fill (String.join (segs.map Segment.toText)) =
          f.fill (String.join (segs.map Segment.toText)) := by
  -- The right side depends on the values alone, and not on the order of the entries.
  have hfill : ∀ f' : Filling, f'.get? = f.get? →
      f'.fill (String.join (segs.map Segment.toText)) =
        String.join (segs.map fun g => (g.fillBy f.get?).toText) := by
    intro f' hget
    have hf' : f'.IsPlain := by rwa [IsPlain, hget]
    rw [← String.toList_inj, toList_fill_of_isPlain hf' hsegs (toList_join_toText segs), hget,
      ← toList_join_toText, List.map_map]
    rfl
  refine ⟨hfill f rfl, fun f' hget => ?_, fun es hes => ?_⟩
  · rw [hfill f' hget, hfill f rfl]
  · rw [hfill _ (get?_ofList_of_perm hes), hfill f rfl]

/-- Values for three holes whose names start in the same way. They and the texts between the holes
    are made of what tokens are made of. -/
theorem fill_join_properties :
    let es : List (Hole × String) :=
      [(.property, "\x7bproperty_safe\x7d"), (.propertyType, "Type\x7d"), (.parameter, "")]
    let segs : List Segment :=
      [.hole .parameter, "\x7bproperty", .hole .propertyType, .hole .negation, "_safe\x7d",
        .hole .property]
    (ofList es).IsPlain ∧ Template.IsPlain segs ∧ es.reverse.Perm (ofList es).entries ∧
      (ofList es).fill (String.join (segs.map Segment.toText)) =
        "\x7bpropertyType\x7d" ++ Hole.negation.token ++ "_safe\x7d\x7bproperty_safe\x7d" ∧
      (ofList es.reverse).fill (String.join (segs.map Segment.toText)) =
        (ofList es).fill (String.join (segs.map Segment.toText)) := by
  intro es segs
  have hf : (ofList es).IsPlain := isPlain_iff.2 (by decide)
  have hsegs : Template.IsPlain segs := by
    intro s hs
    simp only [segs, List.mem_cons, Segment.text.injEq, reduceCtorEq, List.not_mem_nil, or_false,
      false_or] at hs
    rcases hs with rfl | rfl <;> decide
  have hperm : es.reverse.Perm (ofList es).entries := by decide
  obtain ⟨hfill, -, horder⟩ := fill_join hf hsegs
  exact ⟨hf, hsegs, hperm, hfill.trans (by decide), horder _ hperm⟩

end Filling
end AssertionWriter.Template
