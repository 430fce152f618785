/-
  AssertionWriter.Proofs.EntryPoint.Methods

  The methods of entry points, as they are read back from the sources. Whatever the mode,
  between an opening and an end that have no methods there is one for each subject: it
  takes a value of the subject, and gives back and creates an object of the assertion
  class of the subject, under its qualified name.
-/
import AssertionWriter.Proofs.EntryPoint.Sources
import AssertionWriter.Proofs.QualifiedName.Dotted

namespace AssertionWriter

namespace QualifiedName

/-! ## Dotted texts -/

theorem not_mem_of_isDotted {text : String} (h : isDotted text = true) {c : Char}
    (hc : (isNameChar c || c = '.') = false) : c ∉ text.toList := by
  intro hmem
  have hchar := List.all_eq_true.1 h c hmem
  rw [hc] at hchar
  cases hchar

theorem isDotted_qualify {package name : String} (hp : isDotted package = true)
    (hn : isDotted name = true) : isDotted (qualify package name) = true := by
  rw [qualify]
  split
  · exact hn
  · rw [isDotted, String.toList_append, String.toList_append, List.all_append, List.all_append,
      Bool.and_eq_true, Bool.and_eq_true]
    exact ⟨⟨hp, by decide⟩, hn⟩

theorem isDotted_of_isNameChar {name : String} (h : ∀ c ∈ name.toList, isNameChar c = true) :
    isDotted name = true := by
  refine List.all_eq_true.2 fun c hc => ?_
  rw [h c hc, Bool.true_or]

theorem isDotted_intercalate {parts : List (List Char)} (h : ∀ p ∈ parts, isPart p = true)
    {text : String} (htext : text.toList = List.intercalate ['.'] parts) :
    isDotted text = true := by
  refine List.all_eq_true.2 fun c hc => ?_
  rw [htext] at hc
  rcases Text.mem_intercalate hc with hdot | ⟨p, hp, hcp⟩
  · rw [List.mem_singleton.1 hdot]
    decide
  · rw [(isPart_iff.1 (h p hp)).2 c hcp, Bool.true_or]

variable {n : QualifiedName}

theorem WellFormed.isDotted_package (h : n.WellFormed) : isDotted n.package = true := by
  obtain ⟨parts, hpackage, hparts⟩ := h.package
  refine isDotted_intercalate (fun p hp => isPart_of_isPackagePart (hparts p hp)) ?_
  rw [hpackage, String.toList_ofList]

theorem WellFormed.isDotted_qualified (h : n.WellFormed) : isDotted n.qualified = true :=
  isDotted_qualify h.isDotted_package (isDotted_intercalate
    (fun k hk => isPart_of_isSegment (h.chain k hk)) (toList_outerQualified n))

end QualifiedName

namespace EntryPoint
open Template Text QualifiedName ClassWriter

/-! ## Reading -/

/-- What the head of a method tells: the class that it gives back, and the type that it takes. -/
structure MethodHead where
  result : String
  parameter : String
  deriving DecidableEq, Repr

/-- The head of a public method in a line of its own: the last words are the class, the name with
    the type behind a bracket, the name of the parameter and a brace. -/
def methodHead? (line : List Char) : Option MethodHead :=
  (after? "  public ".toList line).bind fun rest =>
    match (splitOn ' ' rest).reverse with
    | _ :: _ :: call :: result :: _ =>
      some ⟨String.ofList result, String.ofList ((call.dropWhile (· ≠ '(')).drop 1)⟩
    | _ => none

/-- The methods that a text has, in order. -/
def methodHeads (text : String) : List MethodHead :=
  (linesWithEnds text.toList).filterMap methodHead?

/-- The class of the object that a line gives back: a new one, or the proxy of a class. -/
def created? (line : List Char) : Option String :=
  (after? "    return ".toList line).map fun rest =>
    String.ofList <|
      match after? "new ".toList rest with
      | some made => made.takeWhile (· ≠ '(')
      | none =>
        let argument := ((rest.dropWhile (· ≠ '(')).drop 1).takeWhile (· ≠ ',')
        ((after? ".class".toList.reverse argument.reverse).getD []).reverse

/-- The classes of the objects that the methods of a text give back, in order. -/
def createdClasses (text : String) : List String :=
  (linesWithEnds text.toList).filterMap created?

/-! ## Idle lines -/

/-- What the lines that are read start with. -/
def codeLeads : List String := ["  public ", "    return "]

/-- Whether a line cannot be one that is read: neither of the starts is one of the other. -/
def isIdle : Line → Bool
  | [] => true
  | .hole _ :: _ => false
  | .text s :: _ => codeLeads.all fun lead =>
    !lead.toList.isPrefixOf s.toList && !s.toList.isPrefixOf lead.toList

theorem after?_append_eq_none {lead s : List Char} (hlead : ¬lead <+: s) (hs : ¬s <+: lead)
    (t : List Char) : after? lead (s ++ t) = none := by
  refine Option.eq_none_iff_forall_ne_some.2 fun r hr => ?_
  rcases List.prefix_or_prefix_of_prefix ⟨r, (after?_eq_some_iff.1 hr).symm⟩
    (List.prefix_append s t) with h | h
  · exact hlead h
  · exact hs h

theorem after?_of_isIdle {line : Line} (h : isIdle line = true) {lead : String}
    (hlead : lead ∈ codeLeads) : after? lead.toList (joined line ++ ['\n']) = none := by
  cases line with
  | nil =>
    have hall : (codeLeads.all fun lead => (after? lead.toList ['\n']).isNone) = true := by decide
    simpa using List.all_eq_true.1 hall lead hlead
  | cons g more =>
    cases g with
    | hole k => cases h
    | text s =>
      simp only [isIdle, Bool.and_eq_true, List.all_eq_true, Bool.not_eq_true',
        ← Bool.not_eq_true, List.isPrefixOf_iff_prefix] at h
      obtain ⟨hfirst, hsecond⟩ := h lead hlead
      rw [joined_cons, List.append_assoc]
      exact after?_append_eq_none hfirst hsecond _

/-- Whether nothing is read from idle lines. -/
def PassesOver {α : Type} (read : List Char → Option α) : Prop :=
  ∀ line, isIdle line = true → read (joined line ++ ['\n']) = none

theorem passesOver_methodHead? : PassesOver methodHead? := by
  intro line h
  rw [methodHead?, after?_of_isIdle h (by decide)]
  rfl

theorem passesOver_created? : PassesOver created? := by
  intro line h
  rw [created?, after?_of_isIdle h (by decide)]
  rfl

/-- What is read from the lines of a template. -/
def readings {α : Type} (read : List Char → Option α) (l : Layout) : List α :=
  l.filterMap fun line => read (joined line ++ ['\n'])

section
variable {α : Type} {read : List Char → Option α}

theorem readings_append (read : List Char → Option α) (l l' : Layout) :
    readings read (l ++ l') = readings read l ++ readings read l' := List.filterMap_append

theorem readings_cons (read : List Char → Option α) (line : Line) (l : Layout) :
    readings read (line :: l) = (read (joined line ++ ['\n'])).toList ++ readings read l := by
  rw [readings, List.filterMap_cons]
  cases read (joined line ++ ['\n']) <;> rfl

theorem PassesOver.readings_eq_nil (h : PassesOver read) {l : Layout} (hl : l.all isIdle = true) :
    readings read l = [] :=
  List.filterMap_eq_nil_iff.2 fun line hline => h line (List.all_eq_true.1 hl line hline)

end

/-! ## Frames -/

/-- The lines that declare the package. -/
def packageLines : Layout := [["package ", .hole .package, ";"], []]

/-- The lines of a frame in front of the methods, for the default package. -/
def openingLines (doc : List String) (declaration : String) : Layout :=
  ["/**"] :: (doc.map EntryPointLayout.docLine ++
    ([[" */"], ["public class ", .text declaration, " \x7b"]] : Layout))

/-- The lines behind the methods of a class that is never instantiated. -/
def closingLines (name : String) : Layout := [
  ["  /**"],
  ["   * Creates a new <code>\x7b@link ", .text name, "\x7d</code>."],
  ["   */"],
  ["  protected ", .text name, "() \x7b"],
  ["    // empty"],
  ["  \x7d"],
  ["\x7d"]]

theorem standalone_eq (doc : List String) (name : String) :
    EntryPointLayout.standalone doc name = packageLines ++
      (openingLines doc name ++ [.hole .entryPoints] :: closingLines name) := by
  simp [EntryPointLayout.standalone, EntryPointLayout.opening, openingLines, closingLines,
    packageLines, blocks]

theorem derived_eq (doc : List String) (name super : String) :
    EntryPointLayout.derived doc name super = packageLines ++
      (openingLines doc (name ++ " extends org.assertj.core.api." ++ super) ++
        [.hole .entryPoints, .text "\x7d"] :: []) := by
  simp [EntryPointLayout.derived, EntryPointLayout.opening, openingLines, packageLines, blocks]

/-- Whether a line is idle and has no holes. -/
def isIdleText (line : Line) : Bool := isIdle line && (holesOf line).isEmpty

theorem isIdleText_openingLines (doc : List String) (declaration : String) :
    (openingLines doc declaration).all isIdleText = true := by
  have hdoc : ∀ text, isIdleText (EntryPointLayout.docLine text) = true := fun _ => rfl
  have hend : isIdleText ["public class ", .text declaration, " \x7b"] = true := rfl
  have hfirst : isIdleText ["/**"] = true ∧ isIdleText [" */"] = true := ⟨rfl, rfl⟩
  simp [openingLines, hdoc, hend, hfirst]

/-- A frame is a line that starts with the methods, between others that are idle. -/
theorem exists_classRole_layout (mode : EntryPointMode) :
    ∃ (front back : Layout) (line : Line),
      mode.classRole.layout = packageLines ++ (front ++ (.hole .entryPoints :: line) :: back) ∧
      (front ++ line :: back).all isIdleText = true := by
  have hstandalone : ∀ doc name, ∃ (front back : Layout) (line : Line),
      EntryPointLayout.standalone doc name =
        packageLines ++ (front ++ (.hole .entryPoints :: line) :: back) ∧
      (front ++ line :: back).all isIdleText = true := by
    intro doc name
    have hclosing : ([] :: closingLines name).all isIdleText = true := rfl
    refine ⟨_, _, _, standalone_eq doc name, ?_⟩
    rw [List.all_append, isIdleText_openingLines, hclosing]
    rfl
  have hderived : ∀ doc name super, ∃ (front back : Layout) (line : Line),
      EntryPointLayout.derived doc name super =
        packageLines ++ (front ++ (.hole .entryPoints :: line) :: back) ∧
      (front ++ line :: back).all isIdleText = true := by
    intro doc name super
    refine ⟨_, _, _, derived_eq doc name super, ?_⟩
    rw [List.all_append, isIdleText_openingLines]
    rfl
  cases mode
  case standard | bdd => exact hstandalone _ _
  all_goals exact hderived _ _ _

/-! ## Methods -/

/-- The head of a method. -/
def headLine (modifiers name : String) : Line := [
  "  ", .text modifiers, " ", .hole .assertClass, " ", .text name, "(", .hole .subject,
  " actual) \x7b"]

/-- The line of a method that gives back its result. -/
def returnLine (result : Line) : Line := pieces [["    return "], result, [";"]]

theorem readings_method {α : Type} {read : List Char → Option α} (h : PassesOver read)
    (doc modifiers name : String) (result : Line) (value? : Hole → Option String) :
    readings read (Layout.fillBy value? (EntryPointLayout.method doc modifiers name result)) =
      (read (joined ((headLine modifiers name).map (Segment.fillBy value?)) ++ ['\n'])).toList ++
      (read (joined ((returnLine result).map (Segment.fillBy value?)) ++ ['\n'])).toList := by
  -- All lines in front of the head are documentation, or an annotation.
  have hsplit : EntryPointLayout.method doc modifiers name result =
      (EntryPointLayout.method doc modifiers name result).take 8 ++
        [headLine modifiers name, returnLine result, ["  \x7d"]] := rfl
  have hfront : ((Layout.fillBy value?
      ((EntryPointLayout.method doc modifiers name result).take 8)).all isIdle) = true := rfl
  have hend : readings read (Layout.fillBy value? [["  \x7d"]]) = [] := h.readings_eq_nil rfl
  have hcons : Layout.fillBy value? [headLine modifiers name, returnLine result, ["  \x7d"]] =
      (headLine modifiers name).map (Segment.fillBy value?) ::
        (returnLine result).map (Segment.fillBy value?) :: Layout.fillBy value? [["  \x7d"]] := rfl
  rw [hsplit, Layout.fillBy_append, readings_append, h.readings_eq_nil hfront, List.nil_append,
    hcons, readings_cons, readings_cons, hend, List.append_nil]

theorem methodHead?_eq_some {modifier result name parameter : String}
    (hmodifier : modifier = "" ∨ modifier = "static ") (hresult : ' ' ∉ result.toList)
    (hname : ' ' ∉ name.toList ∧ '(' ∉ name.toList) (hparameter : ' ' ∉ parameter.toList) :
    methodHead? ("  public ".toList ++ (modifier.toList ++ (result.toList ++ ' ' ::
      (name.toList ++ '(' :: parameter.toList ++ ' ' :: "actual) \x7b\n".toList)))) =
        some ⟨result, parameter⟩ := by
  have hcall : ' ' ∉ name.toList ++ '(' :: parameter.toList := by simp [hname.1, hparameter]
  have hparen : ((name.toList ++ '(' :: parameter.toList).dropWhile (· ≠ '(')).drop 1 =
      parameter.toList := by
    have hdrop : ∀ c ∈ name.toList, decide (c ≠ '(') = true := by
      intro c hc
      exact decide_eq_true fun hbracket => hname.2 (hbracket ▸ hc)
    rw [List.dropWhile_append_of_pos hdrop]
    simp
  have hend : splitOn ' ' "actual) \x7b\n".toList = ["actual)".toList, "\x7b\n".toList] := by decide
  have hwords : splitOn ' ' (result.toList ++ ' ' :: (name.toList ++ '(' :: parameter.toList ++
      ' ' :: "actual) \x7b\n".toList)) =
        [result.toList, name.toList ++ '(' :: parameter.toList, "actual)".toList,
          "\x7b\n".toList] := by
    rw [splitOn_append hresult, splitOn_append hcall, hend]
  have hpublic : ∀ s, after? "  public ".toList ("  public ".toList ++ s) = some s :=
    fun s => after?_eq_some_iff.2 rfl
  rw [methodHead?, hpublic, Option.bind_some]
  rcases hmodifier with rfl | rfl
  · rw [String.toList_empty, List.nil_append, hwords]
    simp only [List.reverse_cons, List.reverse_nil, List.nil_append, List.cons_append, hparen,
      String.ofList_toList]
  · have hstatic : ∀ s, splitOn ' ' ("static ".toList ++ s) = "static".toList :: splitOn ' ' s :=
      splitOn_append (by decide : ' ' ∉ "static".toList)
    rw [hstatic, hwords]
    simp only [List.reverse_cons, List.reverse_nil, List.nil_append, List.cons_append, hparen,
      String.ofList_toList]

theorem created?_new {result : String} (h : '(' ∉ result.toList) :
    created? ("    return ".toList ++ ("new ".toList ++ (result.toList ++ "(actual);\n".toList))) =
      some result := by
  have hreturn : ∀ s, after? "    return ".toList ("    return ".toList ++ s) = some s :=
    fun s => after?_eq_some_iff.2 rfl
  have hnew : ∀ s, after? "new ".toList ("new ".toList ++ s) = some s :=
    fun s => after?_eq_some_iff.2 rfl
  have hbracket : "(actual);\n".toList = '(' :: "actual);\n".toList := by decide
  have htake : (result.toList ++ "(actual);\n".toList).takeWhile (· ≠ '(') = result.toList := by
    have hkeep : ∀ c ∈ result.toList, decide (c ≠ '(') = true := by
      intro c hc
      exact decide_eq_true fun heq => h (heq ▸ hc)
    rw [List.takeWhile_append_of_pos hkeep, hbracket]
    simp
  rw [created?, hreturn, Option.map_some, hnew]
  simp only [htake, String.ofList_toList]

theorem created?_proxy {result : String} (h : ',' ∉ result.toList) (rest : List Char) :
    created? ("    return ".toList ++ ("proxy(".toList ++ (result.toList ++ (".class".toList ++
      ',' :: rest)))) = some result := by
  have hreturn : ∀ s, after? "    return ".toList ("    return ".toList ++ s) = some s :=
    fun s => after?_eq_some_iff.2 rfl
  have hproxy : ∀ s, (("proxy(".toList ++ s).dropWhile (· ≠ '(')).drop 1 = s := fun _ => rfl
  have hnone : ∀ s, after? "new ".toList ("proxy(".toList ++ s) = none := fun _ => rfl
  have htake : (result.toList ++ (".class".toList ++ ',' :: rest)).takeWhile (· ≠ ',') =
      result.toList ++ ".class".toList := by
    have hkeep : ∀ c ∈ result.toList ++ ".class".toList, decide (c ≠ ',') = true := by
      intro c hc
      refine decide_eq_true fun heq => ?_
      rcases List.mem_append.1 (heq ▸ hc) with hc | hc
      · exact h hc
      · exact absurd hc (by decide)
    rw [← List.append_assoc, List.takeWhile_append_of_pos hkeep]
    simp
  have hclass : after? ".class".toList.reverse (result.toList ++ ".class".toList).reverse =
      some result.toList.reverse := after?_eq_some_iff.2 (List.reverse_append ..)
  rw [created?, hreturn, Option.map_some, hnone]
  simp only [hproxy, htake, hclass, Option.getD_some, List.reverse_reverse, String.ofList_toList]

/-- The names of methods. -/
def methodNames : List String := ["assertThat", "then"]

theorem exists_methodRole_layout_eq (mode : EntryPointMode) : ∃ name ∈ methodNames,
    mode.methodRole.layout = EntryPointLayout.direct name ∨
      mode.methodRole.layout = EntryPointLayout.soft name := by
  cases mode
  case standard => exact ⟨"assertThat", by decide, .inl rfl⟩
  case bdd => exact ⟨"then", by decide, .inl rfl⟩
  case soft | jUnitSoft | autoCloseableSoft => exact ⟨"assertThat", by decide, .inr rfl⟩
  case bddSoft | jUnitBddSoft | autoCloseableBddSoft => exact ⟨"then", by decide, .inr rfl⟩

variable {value? : Hole → Option String} {result parameter : String}

theorem joined_headLine (hresult : value? .assertClass = some result)
    (hparameter : value? .subject = some parameter) (modifiers name : String) :
    joined ((headLine modifiers name).map (Segment.fillBy value?)) ++ ['\n'] =
      "  ".toList ++ (modifiers.toList ++ (' ' :: (result.toList ++ ' ' ::
        (name.toList ++ '(' :: parameter.toList ++ ' ' :: "actual) \x7b\n".toList)))) := by
  simp [headLine, Segment.fillBy, Segment.toText, hresult, hparameter]

theorem readings_head (hresult : value? .assertClass = some result)
    (hparameter : value? .subject = some parameter) (hdotted : isDotted result = true)
    (hdotted' : isDotted parameter = true) {modifiers name : String}
    (hmodifiers : modifiers = "public" ∨ modifiers = "public static") (hname : name ∈ methodNames) :
    methodHead? (joined ((headLine modifiers name).map (Segment.fillBy value?)) ++ ['\n']) =
        some ⟨result, parameter⟩ ∧
      created? (joined ((headLine modifiers name).map (Segment.fillBy value?)) ++ ['\n']) =
        none := by
  have hblank := not_mem_of_isDotted hdotted (c := ' ') (by decide)
  have hblank' := not_mem_of_isDotted hdotted' (c := ' ') (by decide)
  have hplain : ' ' ∉ name.toList ∧ '(' ∉ name.toList := by
    have hall : methodNames.all fun name => ' ' ∉ name.toList ∧ '(' ∉ name.toList := by decide
    simpa using List.all_eq_true.1 hall name hname
  rw [joined_headLine hresult hparameter]
  rcases hmodifiers with rfl | rfl
  · exact ⟨methodHead?_eq_some (.inl rfl) hblank hplain hblank', rfl⟩
  · exact ⟨methodHead?_eq_some (.inr rfl) hblank hplain hblank', rfl⟩

/-- The method of a mode is read as it is meant, with dotted names in it. -/
theorem readings_methodRole (mode : EntryPointMode) (hresult : value? .assertClass = some result)
    (hparameter : value? .subject = some parameter) (hdotted : isDotted result = true)
    (hdotted' : isDotted parameter = true) :
    readings methodHead? (mode.methodRole.layout.fillBy value?) = [⟨result, parameter⟩] ∧
      readings created? (mode.methodRole.layout.fillBy value?) = [result] := by
  obtain ⟨name, hname, hlayout | hlayout⟩ := exists_methodRole_layout_eq mode
  · obtain ⟨hhead, hnone⟩ := readings_head hresult hparameter hdotted hdotted' (.inr rfl) hname
    have hreturn : joined ((returnLine ["new ", .hole .assertClass, "(actual)"]).map
        (Segment.fillBy value?)) ++ ['\n'] =
          "    return ".toList ++ ("new ".toList ++ (result.toList ++ "(actual);\n".toList)) := by
      simp [returnLine, pieces, Segment.fillBy, Segment.toText, hresult]
    have hcreated := created?_new (not_mem_of_isDotted hdotted (c := '(') (by decide))
    have hdirect : EntryPointLayout.direct name = EntryPointLayout.method "" "public static" name
      ["new ", .hole .assertClass, "(actual)"] := rfl
    rw [hlayout, hdirect, readings_method passesOver_methodHead?,
      readings_method passesOver_created?, hhead, hnone, hreturn, hcreated]
    exact ⟨rfl, rfl⟩
  · obtain ⟨hhead, hnone⟩ := readings_head hresult hparameter hdotted hdotted' (.inl rfl) hname
    have hreturn : joined ((returnLine ["proxy(", .hole .assertClass, ".class, ", .hole .subject,
        ".class, actual)"]).map (Segment.fillBy value?)) ++ ['\n'] =
          "    return ".toList ++ ("proxy(".toList ++ (result.toList ++ (".class".toList ++
            ',' :: (" ".toList ++ parameter.toList ++ ".class, actual);\n".toList)))) := by
      simp [returnLine, pieces, Segment.fillBy, Segment.toText, hresult, hparameter]
    have hcreated := fun rest => created?_proxy
      (not_mem_of_isDotted hdotted (c := ',') (by decide)) rest
    have hsoft : EntryPointLayout.soft name = EntryPointLayout.method "\"soft\" " "public" name
      ["proxy(", .hole .assertClass, ".class, ", .hole .subject, ".class, actual)"] := rfl
    rw [hlayout, hsoft, readings_method passesOver_methodHead?,
      readings_method passesOver_created?, hhead, hnone, hreturn, hcreated]
    exact ⟨rfl, rfl⟩

/-! ## Sources -/

variable {w : ClassWriter} {mode : EntryPointMode} {surfaces : List Surface} {text : String}

theorem not_lineFeed_mem_methodLines (hw : w.IsDefault) (hs : ∀ s ∈ surfaces, s.IsInline) :
    ∀ line ∈ methodLines mode w.package surfaces, '\n' ∉ joined line := by
  intro line hline
  obtain ⟨s, hmem, hline⟩ := List.mem_flatMap.1 hline
  obtain ⟨unfilled, hunfilled, rfl⟩ := List.mem_map.1 hline
  refine not_mem_joined_fillBy
    (Role.spec_of_mem_layout (isFrame_methodRole mode) unfilled hunfilled).2 ?_
  intro k _ v hv
  have hvalue := Filling.mem_of_get?_ofList hv
  simp only [List.mem_cons, List.not_mem_nil, or_false, Prod.mk.injEq] at hvalue
  rcases hvalue with ⟨-, rfl⟩ | ⟨-, rfl⟩
  · exact (QualifiedName.inline_qualify (hw.inline_targetPackage (hs s hmem))
      (hs s hmem).subject.assertClass).not_mem.2
  · exact (hs s hmem).subject.qualified.not_mem.2

theorem fillBy_of_isIdleText {l : Layout} (h : l.all isIdleText = true)
    (value? : Hole → Option String) : l.fillBy value? = l := by
  have hfixed : ∀ line ∈ l, line.map (Segment.fillBy value?) = line := by
    intro line hline
    have hidle := List.all_eq_true.1 h line hline
    rw [isIdleText, Bool.and_eq_true, List.isEmpty_iff] at hidle
    have hnone : ∀ k, k ∉ holesOf line := by simp [hidle.2]
    have hsegment : ∀ g ∈ line, g.fillBy value? = g := by
      intro g hg
      obtain ⟨s, rfl⟩ := exists_text_of_holesOf hnone g hg
      rfl
    rw [List.map_congr_left hsegment, List.map_id']
  rw [Layout.fillBy, List.map_congr_left hfixed, List.map_id']

/-- The methods take the place of their hole. -/
theorem joined_fillBy_frame {front back : Layout} {line : Line}
    (hfront : front.all isIdleText = true) (hback : (line :: back).all isIdleText = true)
    {methods : String} (hmethods : value? .entryPoints = some methods) :
    joined (Layout.fillBy value? (front ++ (.hole .entryPoints :: line) :: back)).segments =
      joined front.segments ++ (methods.toList ++ joined (Layout.segments (line :: back))) := by
  obtain ⟨hline, hrest⟩ := List.cons.inj (fillBy_of_isIdleText hback value?)
  have hline : line.map (Segment.fillBy value?) = line := hline
  have hfilled : Layout.fillBy value? ((.hole .entryPoints :: line) :: back) =
      (.text methods :: line) :: back := by
    rw [Layout.fillBy, List.map_cons, List.map_cons, hline, hrest, Segment.fillBy, hmethods]
    rfl
  rw [Layout.fillBy_append, fillBy_of_isIdleText hfront, hfilled, Layout.segments_append,
    joined_append, Layout.segments_cons, List.cons_append, joined_cons, ← Layout.segments_cons,
    Segment.toText]

/-- Lines without line feeds stay such ones when a hole is taken from the start of one of them. -/
theorem not_lineFeed_mem_of_hole {front back : Layout} {line : Line} {k : Hole}
    (h : ∀ l ∈ front ++ (.hole k :: line) :: back, '\n' ∉ joined l) :
    ∀ l ∈ front ++ line :: back, '\n' ∉ joined l := by
  intro l hl
  rw [List.mem_append, List.mem_cons] at hl
  rcases hl with hl | rfl | hl
  · exact h l (List.mem_append_left _ hl)
  · have hwhole := h (.hole k :: l) (by simp)
    rw [joined_cons, List.mem_append, not_or] at hwhole
    exact hwhole.2
  · exact h l (by simp [hl])

/-- The lines of a source: behind the heading the methods, between others that are idle. -/
theorem linesWithEnds_source (hw : w.IsDefault) (hs : ∀ s ∈ surfaces, s.IsInline)
    (hne : surfaces ≠ []) (h : source w surfaces mode = .ok text) :
    Inline (w.package.getD (commonPackage surfaces)) ∧ ∃ front back : Layout,
      front.all isIdleText = true ∧ back.all isIdleText = true ∧
      linesWithEnds text.toList =
        linesWithEnds (Rendering.heading (w.package.getD (commonPackage surfaces))) ++
          (front ++ (methodLines mode w.package (inOrder surfaces) ++ back)).map
            fun line => joined line ++ ['\n'] := by
  obtain ⟨text', r, hsource, hr, hlayout, hrest, hvalue⟩ := exists_rendering hw hs hne mode
  obtain rfl := Except.ok.inj (h.symm.trans hsource)
  obtain ⟨front, back, line, hrole, hidle⟩ := exists_classRole_layout mode
  have hinner : r.frame.inner = front ++ (.hole .entryPoints :: line) :: back :=
    @List.append_cancel_left _ packageLines _ _ (hlayout.trans hrole)
  obtain ⟨hfront, hback⟩ : front.all isIdleText = true ∧ (line :: back).all isIdleText = true := by
    rwa [List.all_append, Bool.and_eq_true] at hidle
  have hmethods : r.value? .entryPoints = some (String.join
      ((inOrder surfaces).map (method mode.methodRole.body w.package))) := by
    rw [hvalue]
    rfl
  have hordered : ∀ s ∈ inOrder surfaces, s.IsInline := fun s hmem =>
    hs s (List.mem_mergeSort.1 (mem_of_mem_dropRepeats hmem))
  -- Neither the frame nor the methods have line feeds within their lines.
  have hframe := not_lineFeed_mem_of_hole (hinner ▸ hr.frame.inner_single)
  have hsingle : ∀ l ∈ front ++ (methodLines mode w.package (inOrder surfaces) ++ line :: back),
      '\n' ∉ joined l := by
    intro l hl
    rw [List.mem_append, List.mem_append] at hl
    rcases hl with hl | hl | hl
    · exact hframe l (List.mem_append_left _ hl)
    · exact not_lineFeed_mem_methodLines hw hordered l hl
    · exact hframe l (List.mem_append_right _ hl)
  refine ⟨hr.inline, front, line :: back, hfront, hback, ?_⟩
  rw [hr.toList_eq_heading, hrest, List.append_nil, hinner,
    joined_fillBy_frame hfront hback hmethods, toList_methods hw hordered, ← joined_append,
    ← Layout.segments_append, ← joined_append, ← Layout.segments_append,
    linesWithEnds_append (Rendering.isBehind_heading _), Layout.linesWithEnds_joined hsingle]

section
variable {α : Type} {read : List Char → Option α}

theorem PassesOver.readings_of_isIdleText (h : PassesOver read) {l : Layout}
    (hl : l.all isIdleText = true) : readings read l = [] := by
  refine h.readings_eq_nil (List.all_eq_true.2 fun line hline => ?_)
  have hidle := List.all_eq_true.1 hl line hline
  rw [isIdleText, Bool.and_eq_true] at hidle
  exact hidle.1

theorem PassesOver.filterMap_heading (h : PassesOver read) {package : String}
    (hp : Inline package) : (linesWithEnds (Rendering.heading package)).filterMap read = [] := by
  have hblank : read ['\n'] = none := h [] rfl
  have hpackage : read ("package ".toList ++ package.toList ++ [';', '\n']) = none := by
    have hnone := h ["package ", .text package, ";"] rfl
    simpa [Segment.toText] using hnone
  rw [Rendering.linesWithEnds_heading hp]
  split
  · rfl
  · rw [List.filterMap_cons_none hpackage, List.filterMap_cons_none hblank, List.filterMap_nil]

/-- Of a source nothing is read but its methods. -/
theorem filterMap_source (hw : w.IsDefault) (hs : ∀ s ∈ surfaces, s.IsInline) (hne : surfaces ≠ [])
    (h : source w surfaces mode = .ok text) (hread : PassesOver read) :
    (linesWithEnds text.toList).filterMap read =
      readings read (methodLines mode w.package (inOrder surfaces)) := by
  obtain ⟨hpackage, front, back, hfront, hback, hlines⟩ := linesWithEnds_source hw hs hne h
  rw [hlines, List.filterMap_append, hread.filterMap_heading hpackage, List.filterMap_map,
    List.nil_append]
  change readings read _ = _
  rw [readings_append, readings_append, hread.readings_of_isIdleText hfront,
    hread.readings_of_isIdleText hback, List.nil_append, List.append_nil]

theorem readings_methodLines {package : Option String} {g : Surface → α} (h : ∀ s ∈ surfaces,
      readings read (mode.methodRole.layout.fillBy (methodFilling package s).get?) = [g s]) :
    readings read (methodLines mode package surfaces) = surfaces.map g := by
  induction surfaces with
  | nil => rfl
  | cons s surfaces ih =>
    rw [methodLines, List.flatMap_cons, readings_append, h s (by simp), List.map_cons,
      List.singleton_append]
    exact congrArg _ (ih fun t ht => h t (List.mem_cons_of_mem _ ht))

end

/-- An entry point has a method for each subject, in their order. It takes a value of the subject,
    and gives back an object of the assertion class that it creates. -/
theorem methodHeads_source (hw : w.IsDefault)
    (hs : ∀ s ∈ surfaces, s.IsInline ∧ s.subject.WellFormed) (hne : surfaces ≠ [])
    (h : source w surfaces mode = .ok text) :
    methodHeads text = (inOrder surfaces).map (fun s =>
        ⟨s.qualifiedAssertClass w.package, s.subject.qualified⟩) ∧
      createdClasses text = (inOrder surfaces).map (·.qualifiedAssertClass w.package) := by
  have hread : ∀ s ∈ inOrder surfaces, isDotted (s.qualifiedAssertClass w.package) = true ∧
      isDotted s.subject.qualified = true := by
    intro s hmem
    have hn := (hs s (List.mem_mergeSort.1 (mem_of_mem_dropRepeats hmem))).2
    refine ⟨isDotted_qualify ?_ (isDotted_of_isNameChar (isNameChar_assertClass hn)),
      hn.isDotted_qualified⟩
    rw [Surface.targetPackage]
    cases hp : w.package with
    | none => exact hn.isDotted_package
    | some package => exact hw.package package hp
  have hinline := fun s hmem => (hs s hmem).1
  rw [methodHeads, createdClasses, filterMap_source hw hinline hne h passesOver_methodHead?,
    filterMap_source hw hinline hne h passesOver_created?]
  exact ⟨readings_methodLines fun s hmem =>
      (readings_methodRole mode rfl rfl (hread s hmem).1 (hread s hmem).2).1,
    readings_methodLines fun s hmem =>
      (readings_methodRole mode rfl rfl (hread s hmem).1 (hread s hmem).2).2⟩

end EntryPoint
end AssertionWriter
