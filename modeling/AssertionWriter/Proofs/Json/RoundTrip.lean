/-
  AssertionWriter.Proofs.Json.RoundTrip

  Reading an indented text gives the value it was written from, if the value has no
  numbers and no broken strings. `tokens` are the tokens of a value: the scanner finds
  them in the text, and the automaton makes the value of them.
-/
import AssertionWriter.Json.Printer
import AssertionWriter.Json.Reader

namespace AssertionWriter.Json

/-! ## Values and their tokens -/

mutual
/-- Whether a value is made of texts, truth values and `null` only. -/
def isPlain : Json → Bool
  | null | bool _ | string _ => true
  | number _ | brokenString => false
  | array vs => arePlain vs
  | object fs => havePlainValues fs

/-- Whether all items are plain. -/
def arePlain : List Json → Bool
  | [] => true
  | v :: vs => isPlain v && arePlain vs

/-- Whether all fields have plain values. -/
def havePlainValues : List (String × Json) → Bool
  | [] => true
  | (_, v) :: fs => isPlain v && havePlainValues fs
end

mutual
/-- The tokens of a value. -/
def tokens : Json → List Token
  | null => [.null]
  | bool b => [.bool b]
  | number literal => [.number literal]
  | string s => [.string s]
  | brokenString => [.brokenString]
  | array [] => [.openBracket, .closeBracket]
  | array (v :: vs) => .openBracket :: (tokens v ++ (itemTokens vs ++ [.closeBracket]))
  | object [] => [.openBrace, .closeBrace]
  | object ((k, v) :: fs) =>
    .openBrace :: .string k :: .colon :: (tokens v ++ (fieldTokens fs ++ [.closeBrace]))

/-- The tokens of further items. -/
def itemTokens : List Json → List Token
  | [] => []
  | v :: vs => .comma :: (tokens v ++ itemTokens vs)

/-- The tokens of further fields. -/
def fieldTokens : List (String × Json) → List Token
  | [] => []
  | (k, v) :: fs => .comma :: .string k :: .colon :: (tokens v ++ fieldTokens fs)
end

/-! ## Scanning -/

/-- One character is read after the other. -/
theorem run_cons {state next : Scan} {c : Char} {ts : List Token}
    (h : state.step c = some (ts, next)) (before : List Token) (cs : List Char) :
    Scan.run state before (c :: cs) = Scan.run next (ts.reverse ++ before) cs := by
  rw [Scan.run, h]

/-- Whether no word goes on in `s`. -/
def isBreak (s : List Char) : Bool := s.head?.all (!·.isLower)

/-- Between two tokens the scanner finds the tokens `ts` in `s`, if no word goes on behind it. -/
def Scans (s : List Char) (ts : List Token) : Prop :=
  ∀ (before : List Token) (rest : List Char), isBreak rest = true →
    Scan.run .idle before (s ++ rest) = Scan.run .idle (ts.reverse ++ before) rest

theorem isBreak_append {s t : List Char} (hs : isBreak s = true) (ht : isBreak t = true) :
    isBreak (s ++ t) = true := by
  cases s with
  | nil => exact ht
  | cons c cs => exact hs

theorem Scans.append {s t : List Char} {ts us : List Token} (hs : Scans s ts) (ht : Scans t us)
    (hbreak : isBreak t = true) : Scans (s ++ t) (ts ++ us) := by
  intro before rest hrest
  rw [List.append_assoc, hs before _ (isBreak_append hbreak hrest), ht _ rest hrest,
    List.reverse_append, List.append_assoc]

/-- White space can stand in front of anything. -/
theorem Scans.blank {c : Char} {s : List Char} {ts : List Token}
    (hc : Scan.start c = some ([], .idle)) (hs : Scans s ts) : Scans (c :: s) ts := by
  intro before rest hrest
  have hstep : Scan.step .idle c = some ([], .idle) := hc
  rw [List.cons_append, run_cons hstep]
  exact hs before rest hrest

/-- A token of one character can stand in front of anything. -/
theorem Scans.mark {c : Char} {t : Token} {s : List Char} {ts : List Token}
    (hc : Scan.start c = some ([t], .idle)) (hs : Scans s ts) : Scans (c :: s) (t :: ts) := by
  intro before rest hrest
  have hstep : Scan.step .idle c = some ([t], .idle) := hc
  rw [List.cons_append, run_cons hstep, hs _ rest hrest]
  simp

theorem scans_nil : Scans [] [] := fun _ _ _ => rfl

/-- Indentation is skipped. -/
theorem Scans.newline {s : List Char} {ts : List Token} (h : Scans s ts) (level : Nat) :
    Scans ((newline level).toList ++ s) ts := by
  have hblanks : ∀ n, Scans (List.replicate n ' ' ++ s) ts := by
    intro n
    induction n with
    | zero => exact h
    | succ n ih =>
      rw [List.replicate_succ]
      exact Scans.blank (by decide) ih
  rw [Json.newline, String.toList_ofList]
  exact Scans.blank (by decide) (hblanks (2 * level))

/-! ### Words -/

/-- The letters of a word are taken in one after the other. -/
theorem run_word_append {w : List Char} (hw : ∀ c ∈ w, c.isLower = true) (read : List Char)
    (before : List Token) (rest : List Char) :
    Scan.run (.word read) before (w ++ rest) =
      Scan.run (.word (w.reverse ++ read)) before rest := by
  induction w generalizing read with
  | nil => rfl
  | cons c cs ih =>
    have hstep : Scan.step (.word read) c = some ([], .word (c :: read)) := by
      rw [Scan.step, if_pos (hw c (by simp))]
    rw [List.cons_append, run_cons hstep, List.reverse_nil, List.nil_append,
      ih fun d hd => hw d (List.mem_cons_of_mem _ hd)]
    simp

/-- A word ends where no letter follows. -/
theorem run_word_break {read : List Char} {t : Token} (ht : wordToken? read.reverse = some t)
    (before : List Token) {rest : List Char} (hrest : isBreak rest = true) :
    Scan.run (.word read) before rest = Scan.run .idle (t :: before) rest := by
  cases rest with
  | nil => simp [Scan.run, Scan.finish, ht]
  | cons c cs =>
    have hc : c.isLower = false := by simpa [isBreak] using hrest
    -- The character that ends the word is read as if it stood between tokens.
    have hstep : Scan.step (.word read) c =
        (Scan.start c).map fun p => (t :: p.1, p.2) := by
      rw [Scan.step, if_neg (by simp [hc]), ht]
      cases Scan.start c <;> rfl
    have hidle : Scan.step .idle c = Scan.start c := rfl
    rw [Scan.run, Scan.run, hstep, hidle]
    cases Scan.start c with
    | none => rfl
    | some p => simp

theorem scans_word {c : Char} {w : List Char} {t : Token} (hw : (c :: w).all Char.isLower = true)
    (hstart : Scan.start c = some ([], .word [c])) (ht : wordToken? (c :: w) = some t) :
    Scans (c :: w) [t] := by
  intro before rest hrest
  have hstep : Scan.step .idle c = some ([], .word [c]) := hstart
  have hletters : ∀ d ∈ w, d.isLower = true := fun d hd =>
    List.all_eq_true.1 hw d (List.mem_cons_of_mem _ hd)
  have hrun := run_word_append hletters [c] before rest
  rw [List.cons_append, run_cons hstep]
  refine hrun.trans (run_word_break ?_ before hrest)
  simpa using ht

/-! ### Strings -/

/-- What has been read of a string when all its characters so far are whole. -/
def whole (reversed : List Char) : Partial := ⟨reversed, none, false⟩

theorem hexValue?_hexDigit : ∀ n < 16, hexValue? (hexDigit n) = some n := by decide

/-- A one-letter escape is read as the character it stands for. -/
theorem run_letter {c e : Char} (hu : e ≠ 'u') (he : unescape? e = some c) (read : List Char)
    (before : List Token) (rest : List Char) :
    Scan.run (.string (whole read)) before ('\\' :: e :: rest) =
      Scan.run (.string (whole (c :: read))) before rest := by
  have hslash : Scan.step (.string (whole read)) '\\' = some ([], .escape (whole read)) := rfl
  have hstep : Scan.step (.escape (whole read)) e = some ([], .string (whole (c :: read))) := by
    rw [Scan.step, if_neg hu, he]
    rfl
  rw [run_cons hslash, run_cons hstep]
  rfl

/-- A digit of an escaped code unit that is not the last. -/
theorem step_unicode {c : Char} {d : Nat} (hd : hexValue? c = some d) (read : Partial)
    {digits : Nat} (hlast : digits + 1 ≠ 4) (value : Nat) :
    Scan.step (.unicode read digits value) c =
      some ([], .unicode read (digits + 1) (value * 16 + d)) := by
  rw [Scan.step, hd, Option.map_some, if_neg hlast]

/-- A control character is read from its code unit. -/
theorem run_control {c : Char} (hc : c.toNat < 0x20) (read : List Char) (before : List Token)
    (rest : List Char) :
    Scan.run (.string (whole read)) before
        (['\\', 'u', '0', '0', hexDigit (c.toNat / 16), hexDigit (c.toNat % 16)] ++ rest) =
      Scan.run (.string (whole (c :: read))) before rest := by
  have hslash : Scan.step (.string (whole read)) '\\' = some ([], .escape (whole read)) := rfl
  have hu : Scan.step (.escape (whole read)) 'u' = some ([], .unicode (whole read) 0 0) := rfl
  have hhigh := hexValue?_hexDigit (c.toNat / 16) (by omega)
  have hlow := hexValue?_hexDigit (c.toNat % 16) (by omega)
  have hzero : hexValue? '0' = some 0 := by decide
  have hvalue : (0 * 16 + 0) * 16 + 0 = 0 := by omega
  have hunit : (0 * 16 + c.toNat / 16) * 16 + c.toNat % 16 = c.toNat := by omega
  -- The last digit completes the unit, which is the code point of the character.
  have hend : Scan.step (.unicode (whole read) 3 (0 * 16 + c.toNat / 16))
      (hexDigit (c.toNat % 16)) = some ([], .string (whole (c :: read))) := by
    have hpush : (whole read).pushUnit c.toNat = whole (c :: read) := by
      rw [Partial.pushUnit, if_neg (by simp; omega), if_neg (by simp; omega), Char.ofNat_toNat]
      rfl
    rw [Scan.step, hlow, Option.map_some, hunit, if_pos rfl, hpush]
  simp only [List.cons_append, List.nil_append]
  rw [run_cons hslash, run_cons hu, run_cons (step_unicode hzero _ (by decide) 0),
    run_cons (step_unicode hzero _ (by decide) _), hvalue,
    run_cons (step_unicode hhigh _ (by decide) 0), run_cons hend]
  rfl

/-- A written character is read as itself. -/
theorem run_escape (c : Char) (read : List Char) (before : List Token) (rest : List Char) :
    Scan.run (.string (whole read)) before (escape c ++ rest) =
      Scan.run (.string (whole (c :: read))) before rest := by
  rw [escape]
  split
  · next h => exact run_letter (by decide) (by rw [h]; rfl) read before rest
  split
  · next h => exact run_letter (by decide) (by rw [h]; rfl) read before rest
  split
  · next h => exact run_letter (by decide) (by rw [h]; rfl) read before rest
  split
  · next h => exact run_letter (by decide) (by rw [h]; rfl) read before rest
  split
  · next h => exact run_letter (by decide) (by rw [h]; rfl) read before rest
  split
  · next h => exact run_letter (by decide) (by rw [h]; rfl) read before rest
  split
  · next h => exact run_letter (by decide) (by rw [h]; rfl) read before rest
  split
  · next hlow => exact run_control hlow read before rest
  · next hquote hslash _ _ _ _ _ hlow =>
    have hstep : Scan.step (.string (whole read)) c = some ([], .string (whole (c :: read))) := by
      rw [Scan.step, if_neg hquote, if_neg hslash, if_neg hlow]
      rfl
    rw [List.singleton_append, run_cons hstep]
    rfl

/-- A quoted text is read as that text. -/
theorem scans_quoted (s : String) : Scans (quoted s).toList [.string s] := by
  intro before rest _
  -- The characters come one after the other, each of them written as its escape.
  have hchars : ∀ (cs read : List Char),
      Scan.run (.string (whole read)) before (cs.flatMap escape ++ '"' :: rest) =
        Scan.run (.string (whole (cs.reverse ++ read))) before ('"' :: rest) := by
    intro cs
    induction cs with
    | nil => intro read; rfl
    | cons c cs ih =>
      intro read
      rw [List.flatMap_cons, List.append_assoc, run_escape, ih]
      simp
  have hopen : Scan.step .idle '"' = some ([], .string (whole [])) := by decide
  have hclose : Scan.step (.string (whole s.toList.reverse)) '"' = some ([.string s], .idle) := by
    simp [Scan.step, Partial.token, whole]
  have htext : (quoted s).toList ++ rest = '"' :: (s.toList.flatMap escape ++ '"' :: rest) := by
    simp [quoted]
  rw [htext, run_cons hopen]
  refine (hchars s.toList []).trans ?_
  rw [List.append_nil, run_cons hclose]

/-! ### Values -/

/-- The scanner finds the tokens of a value without arrays and objects. -/
theorem scans_scalar : ∀ v : Json, v.isPlain = true → (∀ vs, v ≠ array vs) → (∀ fs, v ≠ object fs) →
    Scans (scalar v).toList (tokens v) := by
  intro v hv harray hobject
  cases v with
  | null => exact scans_word (by decide) (by decide) (by decide)
  | bool b =>
    cases b with
    | false => exact scans_word (by decide) (by decide) (by decide)
    | true => exact scans_word (by decide) (by decide) (by decide)
  | number literal => exact absurd hv (by simp [isPlain])
  | string s => exact scans_quoted s
  | brokenString => exact absurd hv (by simp [isPlain])
  | array vs => exact absurd rfl (harray vs)
  | object fs => exact absurd rfl (hobject fs)

theorem isBreak_newline (level : Nat) (s : List Char) :
    isBreak ((newline level).toList ++ s) = true := by
  rw [newline, String.toList_ofList]
  rfl

theorem isBreak_prettyItems (level : Nat) (vs : List Json) {s : List Char}
    (hs : isBreak s = true) : isBreak ((prettyItems level vs).toList ++ s) = true := by
  cases vs with
  | nil => simpa [prettyItems] using hs
  | cons v vs => simp [prettyItems, isBreak]

theorem isBreak_prettyFields (level : Nat) (fs : List (String × Json)) {s : List Char}
    (hs : isBreak s = true) : isBreak ((prettyFields level fs).toList ++ s) = true := by
  match fs with
  | [] => simpa [prettyFields] using hs
  | (k, v) :: fs => simp [prettyFields, isBreak]

/-- The scanner finds the key of a field, behind which the value stands. -/
theorem Scans.field {s : List Char} {ts : List Token} (h : Scans s ts) (k : String) :
    Scans ((quoted k).toList ++ ':' :: ' ' :: s) (.string k :: .colon :: ts) :=
  (scans_quoted k).append (.mark (by decide) (.blank (by decide) h)) rfl

mutual
/-- The scanner finds the tokens of a plain value in its text. -/
theorem scans_prettyAt : (v : Json) → v.isPlain = true → ∀ level,
    Scans (prettyAt level v).toList (tokens v)
  | null, h, level => scans_scalar null h nofun nofun
  | bool b, h, level => scans_scalar (bool b) h nofun nofun
  | string s, h, level => scans_scalar (string s) h nofun nofun
  | array [], _, level => by
    rw [prettyAt, tokens]
    exact .mark (by decide) (.mark (by decide) scans_nil)
  | array (v :: vs), h, level => by
    rw [isPlain, arePlain, Bool.and_eq_true] at h
    have hv := scans_prettyAt v h.1 (level + 1)
    have hvs := scans_prettyItems vs h.2 (level + 1)
    have hend : Scans ((newline level).toList ++ [']']) [.closeBracket] :=
      .newline (.mark (by decide) scans_nil) level
    have hbreak := isBreak_newline level [']']
    have htext : (prettyAt level (array (v :: vs))).toList =
        '[' :: ((newline (level + 1)).toList ++ ((prettyAt (level + 1) v).toList ++
          ((prettyItems (level + 1) vs).toList ++ ((newline level).toList ++ [']'])))) := by
      simp [prettyAt]
    rw [htext, tokens]
    exact .mark (by decide) (.newline
      (hv.append (hvs.append hend hbreak) (isBreak_prettyItems _ vs hbreak)) (level + 1))
  | object [], _, level => by
    rw [prettyAt, tokens]
    exact .mark (by decide) (.mark (by decide) scans_nil)
  | object ((k, v) :: fs), h, level => by
    rw [isPlain, havePlainValues, Bool.and_eq_true] at h
    have hv := scans_prettyAt v h.1 (level + 1)
    have hfs := scans_prettyFields fs h.2 (level + 1)
    have hend : Scans ((newline level).toList ++ ['\x7d']) [.closeBrace] :=
      .newline (.mark (by decide) scans_nil) level
    have hbreak := isBreak_newline level ['\x7d']
    have htext : (prettyAt level (object ((k, v) :: fs))).toList =
        '\x7b' :: ((newline (level + 1)).toList ++ ((quoted k).toList ++ ':' :: ' ' ::
          ((prettyAt (level + 1) v).toList ++
            ((prettyFields (level + 1) fs).toList ++ ((newline level).toList ++ ['\x7d']))))) := by
      simp [prettyAt]
    rw [htext, tokens]
    have hvalue := hv.append (hfs.append hend hbreak) (isBreak_prettyFields _ fs hbreak)
    exact .mark (by decide) ((hvalue.field k).newline (level + 1))

theorem scans_prettyItems : (vs : List Json) → arePlain vs = true → ∀ level,
    Scans (prettyItems level vs).toList (itemTokens vs)
  | [], _, _ => scans_nil
  | v :: vs, h, level => by
    rw [arePlain, Bool.and_eq_true] at h
    have hv := scans_prettyAt v h.1 level
    have hvs := scans_prettyItems vs h.2 level
    have hbreak := isBreak_prettyItems level vs (s := []) rfl
    rw [List.append_nil] at hbreak
    have htext : (prettyItems level (v :: vs)).toList =
        ',' :: ((newline level).toList ++ ((prettyAt level v).toList ++
          (prettyItems level vs).toList)) := by
      simp [prettyItems]
    rw [htext, itemTokens]
    exact .mark (by decide) ((hv.append hvs hbreak).newline level)

theorem scans_prettyFields : (fs : List (String × Json)) → havePlainValues fs = true → ∀ level,
    Scans (prettyFields level fs).toList (fieldTokens fs)
  | [], _, _ => scans_nil
  | (k, v) :: fs, h, level => by
    rw [havePlainValues, Bool.and_eq_true] at h
    have hv := scans_prettyAt v h.1 level
    have hfs := scans_prettyFields fs h.2 level
    have hbreak := isBreak_prettyFields level fs (s := []) rfl
    rw [List.append_nil] at hbreak
    have htext : (prettyFields level ((k, v) :: fs)).toList =
        ',' :: ((newline level).toList ++ ((quoted k).toList ++ ':' :: ' ' ::
          ((prettyAt level v).toList ++ (prettyFields level fs).toList))) := by
      simp [prettyFields]
    rw [htext, fieldTokens]
    exact .mark (by decide) (((hv.append hfs hbreak).field k).newline level)
end

/-- The tokens of the text of a plain value. -/
theorem tokens?_pretty {v : Json} (h : v.isPlain = true) :
    tokens? (pretty v).toList = some (tokens v) := by
  have hscan := scans_prettyAt v h 0 [] [] rfl
  rw [List.append_nil, List.append_nil] at hscan
  rw [tokens?, pretty, hscan]
  simp [Scan.run, Scan.finish]

/-! ## Reading the tokens -/

/-- Reading tokens one after the other. -/
def readTokens (r : Reading) (ts : List Token) : Option Reading := ts.foldlM Reading.step r

theorem readTokens_cons {r r' : Reading} {t : Token} (h : r.step t = some r') (ts : List Token) :
    readTokens r (t :: ts) = readTokens r' ts := by
  rw [readTokens, List.foldlM_cons, h]
  rfl

/-- A value begins with no closing bracket, so that the first item is read as any other. -/
theorem readTokens_firstItem (frames : List Frame) (v : Json) (ts : List Token) :
    readTokens (.firstItem frames) (tokens v ++ ts) =
      readTokens (.value (.array [] :: frames)) (tokens v ++ ts) := by
  cases v with
  | array vs => cases vs <;> rfl
  | object fs =>
    cases fs with
    | nil => rfl
    | cons f fs => rfl
  | _ => rfl

mutual
/-- The tokens of a value are read as that value. -/
theorem readTokens_tokens : (v : Json) → ∀ (frames : List Frame) (ts : List Token),
    readTokens (.value frames) (tokens v ++ ts) = readTokens (.after v frames) ts
  | null, _, _ | bool _, _, _ | number _, _, _ | string _, _, _ | brokenString, _, _
  | array [], _, _ | object [], _, _ => rfl
  | array (v :: vs), frames, ts => by
    have hopen : Reading.step (.value frames) .openBracket = some (.firstItem frames) := rfl
    rw [tokens, List.cons_append, readTokens_cons hopen, List.append_assoc, readTokens_firstItem,
      readTokens_tokens v, List.append_assoc, List.singleton_append,
      readTokens_itemTokens vs [] v frames ts]
    rfl
  | object ((k, v) :: fs), frames, ts => by
    have hopen : Reading.step (.value frames) .openBrace = some (.firstKey frames) := rfl
    have hkey : Reading.step (.firstKey frames) (.string k) = some (.colon [] k frames) := rfl
    have hcolon : Reading.step (.colon [] k frames) .colon =
        some (.value (.object [] k :: frames)) := rfl
    rw [tokens, List.cons_append, readTokens_cons hopen, List.cons_append, readTokens_cons hkey,
      List.cons_append, readTokens_cons hcolon, List.append_assoc, readTokens_tokens v,
      List.append_assoc, List.singleton_append, readTokens_fieldTokens fs [] k v frames ts]
    rfl

/-- Further items are added to those that have been read, up to the closing bracket. -/
theorem readTokens_itemTokens : (vs items : List Json) → ∀ (v : Json) (frames : List Frame)
    (ts : List Token),
    readTokens (.after v (.array items :: frames)) (itemTokens vs ++ .closeBracket :: ts) =
      readTokens (.after (.array (items.reverse ++ v :: vs)) frames) ts
  | [], items, v, frames, ts => by
    have hclose : Reading.step (.after v (.array items :: frames)) .closeBracket =
        some (.after (.array (v :: items).reverse) frames) := rfl
    rw [itemTokens, List.nil_append, readTokens_cons hclose, List.reverse_cons]
  | w :: vs, items, v, frames, ts => by
    have hcomma : Reading.step (.after v (.array items :: frames)) .comma =
        some (.value (.array (v :: items) :: frames)) := rfl
    rw [itemTokens, List.cons_append, readTokens_cons hcomma, List.append_assoc,
      readTokens_tokens w, readTokens_itemTokens vs (v :: items)]
    simp

theorem readTokens_fieldTokens : (fs fields : List (String × Json)) → ∀ (k : String) (v : Json)
    (frames : List Frame) (ts : List Token),
    readTokens (.after v (.object fields k :: frames)) (fieldTokens fs ++ .closeBrace :: ts) =
      readTokens (.after (.object (fields.reverse ++ (k, v) :: fs)) frames) ts
  | [], fields, k, v, frames, ts => by
    have hclose : Reading.step (.after v (.object fields k :: frames)) .closeBrace =
        some (.after (.object ((k, v) :: fields).reverse) frames) := rfl
    rw [fieldTokens, List.nil_append, readTokens_cons hclose, List.reverse_cons]
  | (l, w) :: fs, fields, k, v, frames, ts => by
    have hcomma : Reading.step (.after v (.object fields k :: frames)) .comma =
        some (.key ((k, v) :: fields) frames) := rfl
    have hkey : Reading.step (.key ((k, v) :: fields) frames) (.string l) =
        some (.colon ((k, v) :: fields) l frames) := rfl
    have hcolon : Reading.step (.colon ((k, v) :: fields) l frames) .colon =
        some (.value (.object ((k, v) :: fields) l :: frames)) := rfl
    rw [fieldTokens, List.cons_append, readTokens_cons hcomma, List.cons_append,
      readTokens_cons hkey, List.cons_append, readTokens_cons hcolon, List.append_assoc,
      readTokens_tokens w, readTokens_fieldTokens fs ((k, v) :: fields)]
    simp
end

/-- A plain value is read back from its text. -/
theorem parse?_pretty {v : Json} (h : v.isPlain = true) : parse? (pretty v) = some v := by
  have hread := readTokens_tokens v [] []
  rw [List.append_nil, readTokens] at hread
  rw [parse?, tokens?_pretty h]
  simp only [Option.bind_eq_bind, Option.bind_some, hread]
  rfl

end AssertionWriter.Json
