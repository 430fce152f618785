/-
  AssertionWriter.Json.Printer

  Writing JSON values: on one line, or with every item and field on a line of its own,
  indented by two spaces for each level.
-/
import AssertionWriter.Json.Basic

namespace AssertionWriter.Json

/-! ## Strings -/

/-- A hexadecimal digit. -/
def hexDigit (n : Nat) : Char := Char.ofNat (if n < 10 then '0'.toNat + n else 'a'.toNat + n - 10)

/-- A character as it stands between the quotes of a string. -/
def escape (c : Char) : List Char :=
  if c = '"' then ['\\', '"']
  else if c = '\\' then ['\\', '\\']
  else if c = '\x08' then ['\\', 'b']
  else if c = '\x0c' then ['\\', 'f']
  else if c = '\n' then ['\\', 'n']
  else if c = '\r' then ['\\', 'r']
  else if c = '\t' then ['\\', 't']
  else if c.toNat < 0x20 then
    ['\\', 'u', '0', '0', hexDigit (c.toNat / 16), hexDigit (c.toNat % 16)]
  else [c]

/-- A string between quotes. -/
def quoted (s : String) : String := String.ofList ('"' :: s.toList.flatMap escape ++ ['"'])

/-- The text of a value that is no array and no object. A broken string has no text, and is
    written as the replacement character. -/
def scalar : Json → String
  | null => "null"
  | bool b => if b then "true" else "false"
  | number literal => literal
  | string s => quoted s
  | brokenString => quoted "\ufffd"
  | array _ | object _ => ""

/-! ## Compact form -/

mutual
/-- The value on one line, without spaces. -/
def compact : Json → String
  | array [] => "[]"
  | array (v :: vs) => "[" ++ compact v ++ compactItems vs ++ "]"
  | object [] => "\x7b\x7d"
  | object ((k, v) :: fs) => "\x7b" ++ quoted k ++ ":" ++ compact v ++ compactFields fs ++ "\x7d"
  | v => scalar v

/-- Further items, each behind a comma. -/
def compactItems : List Json → String
  | [] => ""
  | v :: vs => "," ++ compact v ++ compactItems vs

/-- Further fields, each behind a comma. -/
def compactFields : List (String × Json) → String
  | [] => ""
  | (k, v) :: fs => "," ++ quoted k ++ ":" ++ compact v ++ compactFields fs
end

/-! ## Indented form -/

/-- A line feed and the indentation of a level. -/
def newline (level : Nat) : String := String.ofList ('\n' :: List.replicate (2 * level) ' ')

mutual
/-- The value with the line breaks and indentation it has at a level. -/
def prettyAt (level : Nat) : Json → String
  | array [] => "[]"
  | array (v :: vs) =>
    "[" ++ newline (level + 1) ++ prettyAt (level + 1) v ++ prettyItems (level + 1) vs
      ++ newline level ++ "]"
  | object [] => "\x7b\x7d"
  | object ((k, v) :: fs) =>
    "\x7b" ++ newline (level + 1) ++ quoted k ++ ": " ++ prettyAt (level + 1) v
      ++ prettyFields (level + 1) fs ++ newline level ++ "\x7d"
  | v => scalar v

/-- Further items at a level. -/
def prettyItems (level : Nat) : List Json → String
  | [] => ""
  | v :: vs => "," ++ newline level ++ prettyAt level v ++ prettyItems level vs

/-- Further fields at a level. -/
def prettyFields (level : Nat) : List (String × Json) → String
  | [] => ""
  | (k, v) :: fs =>
    "," ++ newline level ++ quoted k ++ ": " ++ prettyAt level v ++ prettyFields level fs
end

/-- The value over several lines. -/
def pretty (v : Json) : String := prettyAt 0 v

end AssertionWriter.Json
