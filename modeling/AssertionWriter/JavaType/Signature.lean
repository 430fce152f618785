/-
  AssertionWriter.JavaType.Signature

  Reading a type from its signature. A reader takes what it needs from the front of
  the characters and hands on the rest with the proof that it is shorter, which is why
  reading ends. A signature that cannot be read may still name a raw type.
-/
import AssertionWriter.JavaType.Basic
import AssertionWriter.QualifiedName.Parse

namespace AssertionWriter.JavaType
open Text

/-- Why a signature cannot be read. Offsets count the bytes of UTF-8 from its start. -/
inductive SignatureFault where
  | expectedName (offset : Nat)
  | invalidName (text : String)
  | unterminatedArguments
  | trailingInput (offset : Nat)
  deriving DecidableEq, Repr

/-- The wording of a fault. -/
def SignatureFault.message : SignatureFault → String
  | expectedName offset => "expected a type name at offset " ++ toString offset
  | invalidName text => "invalid type name '" ++ text ++ "'"
  | unterminatedArguments => "unterminated generic arguments"
  | trailingInput offset => "unexpected trailing input at offset " ++ toString offset

/-- A signature and what is wrong with it. -/
structure SignatureError where
  signature : String
  fault : SignatureFault
  deriving DecidableEq, Repr

/-- The wording of a signature error. -/
def SignatureError.message (e : SignatureError) : String :=
  "malformed type signature '" ++ e.signature ++ "': " ++ e.fault.message

/-! ## Characters -/

/-- The number of bytes of some characters in UTF-8. -/
def utf8Length : List Char → Nat
  | [] => 0
  | c :: cs => c.utf8Size + utf8Length cs

/-- Whether `c` may stand in an identifier of a signature, a name with its dots. -/
def isIdentChar (c : Char) : Bool := QualifiedName.isNameChar c || c = '.'

/-- Whether an identifier is a type variable: an ASCII capital, then ASCII digits only. -/
def isVariable : List Char → Bool
  | [] => false
  | c :: cs => c.isUpper && cs.all Char.isDigit

/-! ## Reading -/

/-- What is left of `s` after something has been read from it. -/
abbrev Shorter (s : List Char) := { r : List Char // r.length < s.length }

/-- What a reader found wrong; `expectedName` holds the number of bytes that were left. -/
inductive ReadFault where
  | expectedName (left : Nat)
  | invalidName (text : String)
  | unterminatedArguments
  deriving DecidableEq, Repr

/-- What follows `lead` in `s`, white space before it skipped. -/
def eat? (lead : List Char) (hne : lead ≠ []) (s : List Char) : Option (Shorter s) :=
  match h : after? lead (trimStart s) with
  | none => none
  | some r => some ⟨r, by
      have h₁ := congrArg List.length (after?_eq_some_iff.1 h)
      have h₂ := trimStart_length_le s
      have h₃ := List.length_pos_iff.2 hne
      simp only [List.length_append] at h₁
      omega⟩

/-- Counts the array brackets that `s` starts with, and gives what follows them. White space
    before brackets is skipped. -/
def readBrackets (s : List Char) : Nat × { r : List Char // r.length ≤ s.length } :=
  match eat? ['[', ']'] (by simp) s with
  | none => (0, ⟨s, Nat.le_refl _⟩)
  | some ⟨r, h⟩ =>
    let (n, ⟨r', h'⟩) := readBrackets r
    (n + 1, ⟨r', Nat.le_trans h' (Nat.le_of_lt h)⟩)
termination_by s.length

/-- Reads the brackets behind a type that has been read from the front of `s`. -/
def withBrackets (s : List Char) (t : JavaType) (rest : Shorter s) : JavaType × Shorter s :=
  let (n, ⟨r, h⟩) := readBrackets rest.1
  (arrays n t, ⟨r, by have := rest.2; omega⟩)

/-- Reads an identifier, white space before it skipped. -/
def readIdent (s : List Char) : Except ReadFault (List Char × Shorter s) :=
  match h : (trimStart s).takeWhile isIdentChar with
  | [] => .error (.expectedName (utf8Length (trimStart s)))
  | c :: cs => .ok (c :: cs, ⟨(trimStart s).dropWhile isIdentChar, by
      have h₁ := congrArg List.length
        (List.takeWhile_append_dropWhile (p := isIdentChar) (l := trimStart s))
      have h₂ := trimStart_length_le s
      simp only [h, List.length_append, List.length_cons] at h₁
      omega⟩)

mutual
/-- Reads a type from the front of `s`. -/
def readType (s : List Char) : Except ReadFault (JavaType × Shorter s) :=
  match eat? ['?'] (by simp) s with
  | some ⟨r, h⟩ =>
    match eat? "extends ".toList (by simp) r with
    | some ⟨r', h'⟩ =>
      match readType r' with
      | .error e => .error e
      | .ok (bound, ⟨r'', h''⟩) => .ok (withBrackets s (extending bound) ⟨r'', by omega⟩)
    | none =>
      match eat? "super ".toList (by simp) r with
      | some ⟨r', h'⟩ =>
        -- A lower bound must be well formed, but says nothing about the values.
        match readType r' with
        | .error e => .error e
        | .ok (_, ⟨r'', h''⟩) => .ok (withBrackets s unbounded ⟨r'', by omega⟩)
      | none => .ok (withBrackets s unbounded ⟨r, h⟩)
  | none =>
    match readIdent s with
    | .error e => .error e
    | .ok (ident, ⟨r, h⟩) =>
      if isVariable ident then .ok (withBrackets s (typeVar (String.ofList ident)) ⟨r, h⟩)
      else
        match QualifiedName.parse? (String.ofList ident) with
        | none => .error (.invalidName (String.ofList ident))
        | some name =>
          match eat? ['<'] (by simp) r with
          | none => .ok (withBrackets s (named name []) ⟨r, h⟩)
          | some ⟨r', h'⟩ =>
            match readArguments r' with
            | .error e => .error e
            | .ok (args, ⟨r'', h''⟩) => .ok (withBrackets s (named name args) ⟨r'', by omega⟩)
termination_by 2 * s.length
decreasing_by all_goals omega

/-- Reads the arguments of a type from behind their opening bracket, the closing one included. -/
def readArguments (s : List Char) : Except ReadFault (List JavaType × Shorter s) :=
  match readType s with
  | .error e => .error e
  | .ok (t, ⟨r, h⟩) =>
    match eat? [','] (by simp) r with
    | some ⟨r', h'⟩ =>
      match readArguments r' with
      | .error e => .error e
      | .ok (ts, ⟨r'', h''⟩) => .ok (t :: ts, ⟨r'', by omega⟩)
    | none =>
      match eat? ['>'] (by simp) r with
      | some ⟨r', h'⟩ => .ok ([t], ⟨r', by omega⟩)
      | none => .error .unterminatedArguments
termination_by 2 * s.length + 1
decreasing_by all_goals omega
end

/-- Reads a whole signature. -/
def parse (text : String) : Except SignatureError JavaType :=
  let s := text.toList
  let offset := fun left => utf8Length s - left
  match readType s with
  | .error (.expectedName left) => .error ⟨text, .expectedName (offset left)⟩
  | .error (.invalidName name) => .error ⟨text, .invalidName name⟩
  | .error .unterminatedArguments => .error ⟨text, .unterminatedArguments⟩
  | .ok (t, ⟨r, _⟩) =>
    match trimStart r with
    | [] => .ok t
    | c :: cs => .error ⟨text, .trailingInput (offset (utf8Length (c :: cs)))⟩

/-! ## Malformed signatures -/

/-- Takes the array brackets off the end of a text given from its end, with the white space
    before each, and counts them. -/
def stripBrackets (reversed : List Char) : List Char × Nat :=
  match reversed with
  | ']' :: '[' :: r =>
    let (rest, n) := stripBrackets (trimStart r)
    (rest, n + 1)
  | r => (r, 0)
termination_by reversed.length
decreasing_by
  have := trimStart_length_le r
  simp only [List.length_cons]
  omega

/-- The raw type at the start of a text: the name before the first `<`, in as many arrays as the
    text ends with. -/
def rawType? (text : String) : Option JavaType :=
  let (rest, n) := stripBrackets (trim text.toList).reverse
  let name := rest.reverse.takeWhile (· ≠ '<')
  (QualifiedName.parse? (String.ofList name)).map fun name => arrays n (raw name)

/-- Reads a signature, and takes one that is malformed for the raw type it starts with. -/
def parseLenient (text : String) : Except SignatureError JavaType :=
  match parse text with
  | .ok t => .ok t
  | .error e =>
    match rawType? text with
    | some t => .ok t
    | none => .error e

end AssertionWriter.JavaType
