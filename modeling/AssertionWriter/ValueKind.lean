/-
  AssertionWriter.ValueKind

  The kinds of values that assertions tell apart, and the kind of a value by its type: an
  array first, then a container, then a boolean, a number or a character, and anything
  else plain. The type of the elements is always concrete.
-/
import AssertionWriter.Catalog.Elements
import AssertionWriter.JavaType.Rendering
import AssertionWriter.Naming.Accessor

namespace AssertionWriter

/-- The kind of a value. A value is boxed if its type is the wrapper of a primitive. -/
inductive ValueKind where
  | plain
  | predicate (boxed : Bool)
  | realNumber (boxed : Bool)
  | wholeNumber (boxed : Bool)
  | character (boxed : Bool)
  | array (element : JavaType)
  | enumerable (element : JavaType)
  deriving DecidableEq, Repr

/-- What sort of member gives a value. -/
inductive MemberKind where
  | accessor
  | field
  deriving DecidableEq, Repr

namespace ValueKind

/-! ## Views -/

/-- The type of the elements of an array or a container. -/
def element? : ValueKind → Option JavaType
  | array e | enumerable e => some e
  | _ => none

/-- Whether the value answers a question with yes or no. -/
def isPredicate : ValueKind → Bool
  | predicate _ => true
  | _ => false

/-- Whether the value is boxed, for the kinds that can be. -/
def boxed? : ValueKind → Option Bool
  | predicate b | realNumber b | wholeNumber b | character b => some b
  | _ => none

/-- Whether the value is the wrapper of a primitive. -/
def isBoxed (k : ValueKind) : Bool := k.boxed? = some true

/-- Whether the value is a primitive. -/
def isPrimitive (k : ValueKind) : Bool := k.boxed? = some false

/-- The word for a kind. -/
def word : ValueKind → String
  | plain => "plain"
  | predicate _ => "predicate"
  | realNumber _ => "real_number"
  | wholeNumber _ => "whole_number"
  | character _ => "char"
  | array _ => "array"
  | enumerable _ => "enumerable"

/-- The kind in words. -/
def describe (k : ValueKind) : String :=
  match k.element? with
  | some e => k.word ++ "<" ++ e.reference "" ++ ">"
  | none => if k.isBoxed then "boxed " ++ k.word else k.word

/-! ## Types of elements -/

/-- The concrete type that stands for `t` as the type of elements: its bound for a wildcard, the
    raw type if an argument is not concrete, and otherwise the type every class extends. -/
def concrete : JavaType → JavaType
  | .named n args =>
    if JavaType.allConcrete args then .named n args else .raw n
  | .array c => .array (concrete c)
  | .extending bound => concrete bound
  | .unbounded | .typeVar _ => .object

/-- The type of the elements of a container. -/
def elementOf (c : Catalog) (usage : JavaType) : JavaType :=
  ((c.elementArgument? usage).map concrete).getD .object

/-! ## Classification -/

/-- The kind of a value of a primitive type or a wrapper. A boolean that an accessor gives is a
    predicate only if the name of the accessor says so. -/
def ofPrimitive (boxed : Bool) (member : String) (kind : MemberKind) : Primitive → ValueKind
  | .boolean => if kind = .field || Naming.isGetter member true then predicate boxed else plain
  | .float | .double => realNumber boxed
  | .byte | .short | .int | .long => wholeNumber boxed
  | .char => character boxed

/-- The kind of the value of a member by its type. -/
def classify (c : Catalog) (member : String) (kind : MemberKind) (type : JavaType) : ValueKind :=
  match type with
  | .array component => array (concrete component)
  | .named n _ =>
    if c.isContainer n then enumerable (elementOf c type)
    else
      match n.valuePrimitive? with
      | some p => ofPrimitive n.isWrapper member kind p
      | none => plain
  | .typeVar _ | .unbounded | .extending _ => plain

/-- The kind of a value of a declared type. The values of an enumeration are its constants. -/
def ofDeclaration (c : Catalog) (d : TypeDecl) : ValueKind :=
  if d.kind = .enumeration then enumerable (.raw d.name)
  else if c.isContainer d.name then enumerable (elementOf c (.raw d.name))
  else plain

end ValueKind
end AssertionWriter
