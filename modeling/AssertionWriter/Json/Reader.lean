/-
  AssertionWriter.Json.Reader

  Reading a JSON text. Behind the scanner stands an automaton over tokens: `Frame`
  holds what has been read of the arrays and objects around the place at hand, and
  `Reading.step` takes one token.
-/
import AssertionWriter.Json.Basic
import AssertionWriter.Json.Token

namespace AssertionWriter.Json

/-- An array or object that has been opened and not closed. -/
inductive Frame where
  /-- An array, with the items before the one at hand, last first. -/
  | array (reversed : List Json)
  /-- An object, with the fields before the one at hand, last first, and the key of that one. -/
  | object (reversed : List (String × Json)) (key : String)
  deriving Repr

/-- Where in a text the reader is. -/
inductive Reading where
  /-- A value must follow. -/
  | value (frames : List Frame)
  /-- An array has been opened. -/
  | firstItem (frames : List Frame)
  /-- An object has been opened. -/
  | firstKey (frames : List Frame)
  /-- A comma has been read in an object. -/
  | key (reversed : List (String × Json)) (frames : List Frame)
  /-- A key has been read. -/
  | colon (reversed : List (String × Json)) (key : String) (frames : List Frame)
  /-- A value has been read. -/
  | after (v : Json) (frames : List Frame)
  deriving Repr

namespace Reading

/-- Reads the first token of a value. -/
def startValue (frames : List Frame) : Token → Option Reading
  | .null => some (after .null frames)
  | .bool b => some (after (.bool b) frames)
  | .number literal => some (after (.number literal) frames)
  | .string s => some (after (.string s) frames)
  | .brokenString => some (after .brokenString frames)
  | .openBracket => some (firstItem frames)
  | .openBrace => some (firstKey frames)
  | .closeBrace | .closeBracket | .colon | .comma => none

/-- Reads one token; `none` if no JSON text has it there. -/
def step : Reading → Token → Option Reading
  | value frames, t => startValue frames t
  | firstItem frames, .closeBracket => some (after (.array []) frames)
  | firstItem frames, t => startValue (.array [] :: frames) t
  | firstKey frames, .closeBrace => some (after (.object []) frames)
  | firstKey frames, .string k => some (colon [] k frames)
  | firstKey _, _ => none
  | key fields frames, .string k => some (colon fields k frames)
  | key _ _, _ => none
  | colon fields k frames, .colon => some (value (.object fields k :: frames))
  | colon _ _ _, _ => none
  | after v (.array items :: frames), .comma => some (value (.array (v :: items) :: frames))
  | after v (.array items :: frames), .closeBracket =>
    some (after (.array (v :: items).reverse) frames)
  | after v (.object fields k :: frames), .comma => some (key ((k, v) :: fields) frames)
  | after v (.object fields k :: frames), .closeBrace =>
    some (after (.object ((k, v) :: fields).reverse) frames)
  | after _ _, _ => none

end Reading

/-- Reads a JSON text, white space around it allowed; `none` for anything else. -/
def parse? (text : String) : Option Json := do
  let tokens ← tokens? text.toList
  match ← tokens.foldlM Reading.step (.value []) with
  | .after v [] => some v
  | _ => none

end AssertionWriter.Json
