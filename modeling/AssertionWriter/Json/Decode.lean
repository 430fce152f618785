/-
  AssertionWriter.Json.Decode

  Reading values of the domain from JSON values. A decoder gives the value or says what
  is wrong; `Record` reads the fields of an object, or of an array that lists them in order.
-/
import AssertionWriter.JavaType.Signature
import AssertionWriter.Json.Number
import AssertionWriter.Json.Reader
import AssertionWriter.Text.Quoted

namespace AssertionWriter.Json

/-! ## Faults -/

/-- How the content of a document differs from what is wanted. -/
inductive Mismatch where
  | missingField (name : String)
  | duplicateField (name : String)
  | unknownVariant (found : String) (known : List String)
  | wrongType (found wanted : String)
  /-- An array that lists the fields of a record ends too early. -/
  | tooShort (length : Nat) (wanted : String) (fields : Nat)
  /-- An array that lists the fields of a tagged record goes on behind them. -/
  | tooLong (length fields : Nat)
  /-- An object that should have one key has none or several. -/
  | notOneKey
  | invalidName (text : String)
  | invalidSignature (error : JavaType.SignatureError)
  deriving DecidableEq, Repr

/-- Why a document cannot be read. -/
inductive Fault where
  /-- The text is no JSON text. -/
  | malformed
  | mismatch (problem : Mismatch)
  deriving DecidableEq, Repr

/-- A name between backticks. -/
def ticked (s : String) : String := "`" ++ s ++ "`"

/-- The wording of the variants that are possible. -/
def expectedOneOf : List String → String
  | [] => "there are no variants"
  | [a] => "expected " ++ ticked a
  | [a, b] => "expected " ++ ticked a ++ " or " ++ ticked b
  | vs => "expected one of " ++ ", ".intercalate (vs.map ticked)

/-- The wording of a number of elements. -/
def countOfElements (n : Nat) : String :=
  toString n ++ if n = 1 then " element" else " elements"

/-- The wording of a mismatch. -/
def Mismatch.message : Mismatch → String
  | missingField name => "missing field " ++ ticked name
  | duplicateField name => "duplicate field " ++ ticked name
  | unknownVariant found known =>
    "unknown variant " ++ ticked found ++ ", " ++ expectedOneOf known
  | wrongType found wanted => "invalid type: " ++ found ++ ", expected " ++ wanted
  | tooShort length wanted fields =>
    "invalid length " ++ toString length ++ ", expected " ++ wanted ++ " with " ++
      countOfElements fields
  | tooLong length fields =>
    "invalid length " ++ toString length ++ ", expected " ++ countOfElements fields ++
      " in sequence"
  | notOneKey => "invalid value: map, expected map with a single key"
  | invalidName text => "invalid type name '" ++ text ++ "'"
  | invalidSignature e => e.message

/-- A reader of values from JSON. -/
abbrev Decoder (α : Type) := Json → Except Fault α

/-! ## Plain values -/

/-- The fault of a value of the wrong type. A broken string, or a number beyond all range, is no
    JSON text to whoever looks at it. -/
def wrongType (wanted : String) (v : Json) : Fault :=
  let found? : Option String := match v with
    | null => some "null"
    | bool b => some (if b then "boolean `true`" else "boolean `false`")
    | number literal => (Number.ofLiteral? literal).map Number.describe
    | string s => some ("string " ++ Text.quote s)
    | brokenString => none
    | array _ => some "sequence"
    | object _ => some "map"
  match found? with
  | some found => .mismatch (.wrongType found wanted)
  | none => .malformed

/-- Reads a string; `wanted` is what it stands for. -/
def decodeString (wanted : String) : Decoder String
  | string s => .ok s
  | v => .error (wrongType wanted v)

/-- Reads a text. -/
def decodeText : Decoder String := decodeString "a string"

/-- Reads the path of a file or directory. -/
def decodePath : Decoder String := decodeString "path string"

/-- Reads a truth value. -/
def decodeBool : Decoder Bool
  | bool b => .ok b
  | v => .error (wrongType "a boolean" v)

/-- Reads a value that may be `null`. -/
def decodeOption {α : Type} (decode : Decoder α) : Decoder (Option α)
  | null => .ok none
  | v => some <$> decode v

/-- Reads the items of an array. -/
def decodeList {α : Type} (decode : Decoder α) : Decoder (List α)
  | array items => items.mapM decode
  | v => .error (wrongType "a sequence" v)

/-- Reads the fields of an object. -/
def decodeFields {α : Type} (decode : Decoder α) : Decoder (List (String × α))
  | object fields => fields.mapM fun (k, v) => do return (k, ← decode v)
  | v => .error (wrongType "a map" v)

/-- The variant with a name. -/
def variant {α : Type} (variants : List (String × α)) (name : String) : Except Fault α :=
  match variants.lookup name with
  | some a => .ok a
  | none => .error (.mismatch (.unknownVariant name (variants.map (·.1))))

/-- Reads one of several values by its name, which may also be the only key of an object whose
    field is `null`. -/
def decodeVariant {α : Type} (variants : List (String × α)) : Decoder α
  | string name => variant variants name
  | object ((name, v) :: others) => do
    let a ← variant variants name
    match v with
    | null => if others.isEmpty then return a else throw .malformed
    | v => throw (wrongType "unit" v)
  | _ => .error .malformed

/-- Reads one of several values by its name in a field of a tagged record. Such a record has been
    read before its fields are looked at, so that a value of another type is named, and an empty
    object may stand for `null`. -/
def decodeFieldVariant {α : Type} (variants : List (String × α)) : Decoder α
  | string name => variant variants name
  | object [(name, v)] => do
    let a ← variant variants name
    match v with
    | null | object [] => return a
    | v => throw (wrongType "unit" v)
  | object _ => .error (.mismatch .notOneKey)
  | v => .error (wrongType "string or map" v)

/-! ## Names and types -/

/-- Reads the name of a type. -/
def decodeName : Decoder QualifiedName := fun v => do
  let text ← decodeText v
  match QualifiedName.parse? text with
  | some n => return n
  | none => throw (.mismatch (.invalidName text))

/-- Reads a type from its signature. -/
def decodeType : Decoder JavaType := fun v => do
  let text ← decodeText v
  match JavaType.parseLenient text with
  | .ok t => return t
  | .error e => throw (.mismatch (.invalidSignature e))

/-! ## Records -/

/-- The fields of a record, at most one value for each. -/
structure Record where
  /-- What the record is called in faults. -/
  name : String
  known : List String
  fields : List (String × Json)
  /-- The number of items, if an array lists the fields in order. -/
  listed : Option Nat

/-- The first text that occurs twice. -/
def firstDuplicate? : List String → Option String
  | [] => none
  | s :: ss => if ss.contains s then some s else firstDuplicate? ss

/-- The fields of a record given by an object; unknown fields are ignored. -/
def Record.ofFields (name : String) (known : List String) (fields : List (String × Json)) :
    Except Fault Record :=
  let fields := fields.filter fun f => known.contains f.1
  match firstDuplicate? (fields.map (·.1)) with
  | some field => .error (.mismatch (.duplicateField field))
  | none => .ok ⟨name, known, fields, none⟩

/-- The fields of a record given by an object, or by an array that has no more items than the
    record has fields. -/
def record (name : String) (known : List String) : Json → Except Fault Record
  | object fields => Record.ofFields ("struct " ++ name) known fields
  | array items =>
    if items.length ≤ known.length then
      .ok ⟨"struct " ++ name, known, known.zip items, some items.length⟩
    else .error .malformed
  | v => .error (wrongType ("struct " ++ name) v)

namespace Record

/-- The fault of a field that is not there. -/
def missing (r : Record) (field : String) : Fault :=
  match r.listed with
  | none => .mismatch (.missingField field)
  | some n => .mismatch (.tooShort n r.name r.known.length)

/-- Reads a field that must be there. -/
def required {α : Type} (r : Record) (field : String) (decode : Decoder α) : Except Fault α :=
  match r.fields.lookup field with
  | some v => decode v
  | none => .error (r.missing field)

/-- Reads a field that has a default. -/
def optional {α : Type} (r : Record) (field : String) (decode : Decoder α) (default : α) :
    Except Fault α :=
  match r.fields.lookup field with
  | some v => decode v
  | none => .ok default

/-- Reads a field that may be `null`, or missing from an object. -/
def nullable {α : Type} (r : Record) (field : String) (decode : Decoder α) :
    Except Fault (Option α) :=
  match r.fields.lookup field, r.listed with
  | some v, _ => decodeOption decode v
  | none, none => .ok none
  | none, some _ => .error (r.missing field)

end Record

/-! ## Tagged records -/

mutual

/-- Whether a value can be taken in without knowing what it stands for: no string in it is broken
    and no number is beyond all range. -/
def isSound : Json → Bool
  | number literal => (Number.ofLiteral? literal).isSome
  | brokenString => false
  | array items => areSound items
  | object fields => haveSoundValues fields
  | null | bool _ | string _ => true

/-- Whether all items are sound. -/
def areSound : List Json → Bool
  | [] => true
  | v :: vs => isSound v && areSound vs

/-- Whether all fields have sound values. -/
def haveSoundValues : List (String × Json) → Bool
  | [] => true
  | (_, v) :: fields => isSound v && haveSoundValues fields

end

/-- The title of a variant: its words without the underscores, each with a capital. -/
def variantTitle (name : String) : String :=
  String.ofList ((Text.splitOn '_' name.toList).flatMap fun
    | [] => []
    | c :: cs => c.toUpper :: cs)

/-- Reads the tag of a record, with its word. -/
def decodeTag {α : Type} (variants : List (String × α)) : Decoder (String × α)
  | string word => do return (word, ← variant variants word)
  | v => .error (wrongType "variant identifier" v)

/-- Reads a record whose field `tag` says which one it is. The fields behind the tag are those
    that `fieldsOf` gives; an array lists the tag first. -/
def tagged {α : Type} (name tag : String) (variants : List (String × α))
    (fieldsOf : α → List String) (v : Json) : Except Fault (α × Record) :=
  let titleOf (word : String) := "struct variant " ++ name ++ "::" ++ variantTitle word
  match v with
  | object fields => do
    -- The tag may stand anywhere, so all other fields are taken in before they have a meaning.
    if !haveSoundValues fields then throw .malformed
    let head ← Record.ofFields name [tag] fields
    let (word, a) ← head.required tag (decodeTag variants)
    let r ← Record.ofFields (titleOf word) (fieldsOf a) fields
    return (a, r)
  | array (first :: items) => do
    if !areSound items then throw .malformed
    let (word, a) ← decodeTag variants first
    let known := fieldsOf a
    if known.length < items.length then throw (.mismatch (.tooLong items.length known.length))
    return (a, ⟨titleOf word, known, known.zip items, some items.length⟩)
  | array [] => .error (.mismatch (.missingField tag))
  | v => .error (wrongType ("internally tagged enum " ++ name) v)

/-! ## Documents -/

/-- Reads a document from its text. -/
def decodeDocument {α : Type} (decode : Decoder α) (text : String) : Except Fault α :=
  match parse? text with
  | some v => decode v
  | none => .error .malformed

end AssertionWriter.Json
