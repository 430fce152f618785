/-
  AssertionWriter.Json.Token

  The tokens of a JSON text. The scanner reads one character at a time: `Scan` is what
  it has seen of the token it is in, and `Scan.step` gives the tokens that a character
  completes and the state after it.
-/

namespace AssertionWriter.Json

/-- A token of a JSON text. -/
inductive Token where
  | openBrace | closeBrace | openBracket | closeBracket | colon | comma
  | null
  | bool (b : Bool)
  | number (literal : String)
  | string (s : String)
  /-- A string with an escaped half of a surrogate pair. -/
  | brokenString
  deriving DecidableEq, Repr

/-! ## Numbers and words -/

/-- Whether `s` is the exponent of a number, or empty. -/
def isExponent : List Char → Bool
  | [] => true
  | e :: s =>
    let digits := match s with
      | '+' :: ds => ds
      | '-' :: ds => ds
      | ds => ds
    (e = 'e' || e = 'E') && !digits.isEmpty && digits.all Char.isDigit

/-- Whether `s` is the fraction and the exponent of a number, either of which may be missing. -/
def isFraction : List Char → Bool
  | '.' :: s => !(s.takeWhile Char.isDigit).isEmpty && isExponent (s.dropWhile Char.isDigit)
  | s => isExponent s

/-- Whether `s` is the literal of a number: no leading zeros, digits on both sides of a point. -/
def isNumber (s : List Char) : Bool :=
  let unsigned := match s with
    | '-' :: r => r
    | r => r
  let whole := unsigned.takeWhile Char.isDigit
  (whole = ['0'] || whole.head?.any (· ≠ '0')) && isFraction (unsigned.dropWhile Char.isDigit)

/-- Whether a number may go on with `c`. -/
def isNumberChar (c : Char) : Bool :=
  c.isDigit || c = '+' || c = '-' || c = '.' || c = 'e' || c = 'E'

/-- The token of a word, if it is one of the three that JSON has. -/
def wordToken? (word : List Char) : Option Token :=
  if word = "null".toList then some .null
  else if word = "true".toList then some (.bool true)
  else if word = "false".toList then some (.bool false)
  else none

/-- The token of a number. -/
def numberToken? (literal : List Char) : Option Token :=
  if isNumber literal then some (.number (String.ofList literal)) else none

/-! ## Strings -/

/-- What has been read of a string. -/
structure Partial where
  /-- The characters, last first. -/
  reversed : List Char
  /-- The first half of a surrogate pair whose second half must follow. -/
  half : Option Nat
  /-- Whether a half without its other half has been seen. -/
  broken : Bool
  deriving DecidableEq, Repr

namespace Partial

/-- A string of which nothing has been read. -/
def empty : Partial := ⟨[], none, false⟩

/-- The string with a character more. -/
def push (p : Partial) (c : Char) : Partial := ⟨c :: p.reversed, none, p.broken || p.half.isSome⟩

/-- The string with an escaped code unit more. -/
def pushUnit (p : Partial) (unit : Nat) : Partial :=
  if 0xd800 ≤ unit && unit < 0xdc00 then ⟨p.reversed, some unit, p.broken || p.half.isSome⟩
  else if 0xdc00 ≤ unit && unit < 0xe000 then
    match p.half with
    | some high =>
      ⟨Char.ofNat (0x10000 + (high - 0xd800) * 0x400 + (unit - 0xdc00)) :: p.reversed, none,
        p.broken⟩
    | none => ⟨p.reversed, none, true⟩
  else p.push (Char.ofNat unit)

/-- The token of the finished string. -/
def token (p : Partial) : Token :=
  if p.broken || p.half.isSome then .brokenString
  else .string (String.ofList p.reversed.reverse)

end Partial

/-- The character that a one-letter escape stands for. -/
def unescape? (c : Char) : Option Char :=
  match c with
  | '"' => some '"'
  | '\\' => some '\\'
  | '/' => some '/'
  | 'b' => some '\x08'
  | 'f' => some '\x0c'
  | 'n' => some '\n'
  | 'r' => some '\r'
  | 't' => some '\t'
  | _ => none

/-- The value of a hexadecimal digit. -/
def hexValue? (c : Char) : Option Nat :=
  if c.isDigit then some (c.toNat - '0'.toNat)
  else if 'a' ≤ c && c ≤ 'f' then some (c.toNat - 'a'.toNat + 10)
  else if 'A' ≤ c && c ≤ 'F' then some (c.toNat - 'A'.toNat + 10)
  else none

/-! ## Scanning -/

/-- What has been read of the token at hand. -/
inductive Scan where
  /-- Between tokens. -/
  | idle
  /-- In a word, last letter first. -/
  | word (reversed : List Char)
  /-- In a number, last character first. -/
  | number (reversed : List Char)
  /-- In a string. -/
  | string (read : Partial)
  /-- Behind a backslash in a string. -/
  | escape (read : Partial)
  /-- In an escape `\uXXXX`: the number of digits read, and their value. -/
  | unicode (read : Partial) (digits value : Nat)
  deriving DecidableEq, Repr

namespace Scan

/-- Reads the first character of a token, or the space between two. -/
def start (c : Char) : Option (List Token × Scan) :=
  if c = ' ' || c = '\t' || c = '\n' || c = '\r' then some ([], idle)
  else if c = '\x7b' then some ([.openBrace], idle)
  else if c = '\x7d' then some ([.closeBrace], idle)
  else if c = '[' then some ([.openBracket], idle)
  else if c = ']' then some ([.closeBracket], idle)
  else if c = ':' then some ([.colon], idle)
  else if c = ',' then some ([.comma], idle)
  else if c = '"' then some ([], string .empty)
  else if c = '-' || c.isDigit then some ([], number [c])
  else if c.isLower then some ([], word [c])
  else none

/-- Reads one character; `none` if no JSON text has it there. -/
def step : Scan → Char → Option (List Token × Scan)
  | idle, c => start c
  | word cs, c =>
    if c.isLower then some ([], word (c :: cs))
    else do
      let token ← wordToken? cs.reverse
      let (tokens, next) ← start c
      return (token :: tokens, next)
  | number cs, c =>
    if isNumberChar c then some ([], number (c :: cs))
    else do
      let token ← numberToken? cs.reverse
      let (tokens, next) ← start c
      return (token :: tokens, next)
  | string p, c =>
    if c = '"' then some ([p.token], idle)
    else if c = '\\' then some ([], escape p)
    else if c.toNat < 0x20 then none
    else some ([], string (p.push c))
  | escape p, c =>
    if c = 'u' then some ([], unicode p 0 0)
    else (unescape? c).map fun e => ([], string (p.push e))
  | unicode p digits value, c =>
    (hexValue? c).map fun d =>
      let value := value * 16 + d
      if digits + 1 = 4 then ([], string (p.pushUnit value))
      else ([], unicode p (digits + 1) value)

/-- The token that ends with the text; `none` if the text ends too early. -/
def finish : Scan → Option (List Token)
  | idle => some []
  | word cs => (wordToken? cs.reverse).map ([·])
  | number cs => (numberToken? cs.reverse).map ([·])
  | string _ | escape _ | unicode _ _ _ => none

/-- The tokens of `s` behind those of `reversed`, which is in reverse. -/
def run (state : Scan) (reversed : List Token) : List Char → Option (List Token)
  | [] => state.finish.map fun tokens => reversed.reverse ++ tokens
  | c :: cs =>
    match state.step c with
    | none => none
    | some (tokens, next) => run next (tokens.reverse ++ reversed) cs

end Scan

/-- The tokens of a JSON text. -/
def tokens? (s : List Char) : Option (List Token) := Scan.run .idle [] s

end AssertionWriter.Json
