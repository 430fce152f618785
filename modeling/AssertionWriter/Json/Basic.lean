/-
  AssertionWriter.Json.Basic

  JSON values. Numbers keep the literal they were written with, and the fields of an
  object their order and repetitions: whoever reads a value decides what they mean.
-/

namespace AssertionWriter

/-- A JSON value. -/
inductive Json where
  | null
  | bool (b : Bool)
  /-- A number, as its literal. -/
  | number (literal : String)
  | string (s : String)
  /-- A string with an escaped half of a surrogate pair, which is no text. -/
  | brokenString
  | array (items : List Json)
  | object (fields : List (String × Json))
  deriving Repr, Inhabited

namespace Json

/-- A natural number. -/
def ofNat (n : Nat) : Json := number (toString n)

/-- A text, or `null` for none. -/
def ofText? : Option String → Json
  | some s => string s
  | none => null

/-- A list of texts. -/
def ofTexts (texts : List String) : Json := array (texts.map string)

end Json
end AssertionWriter
