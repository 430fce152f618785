/-
  AssertionWriter.Template.PropertyLayout

  The methods that assert something about a property. All have the same frame; what they
  check depends on the kind of the value.
-/
import AssertionWriter.Template.Layout

namespace AssertionWriter.Template.PropertyLayout
open Hole

/-! ## The frame of a method -/

/-- What sets one assertion method apart from another. -/
structure Method where
  /-- The documentation, up to the value given back. -/
  doc : Layout
  /-- When the assertion fails. -/
  failure : Line
  /-- The name and the parameters. -/
  signature : Line
  /-- The check itself. -/
  check : Layout

/-- An assertion method, with an empty line in front. -/
def Method.layout (m : Method) : Layout :=
  blocks [[
  [],
  ["  /**"]], m.doc, [
  ["   * @return this assertion object."],
  pieces [["   * @throws AssertionError "], m.failure, [throwsDoc]],
  ["   */"],
  pieces [["  public ", selfType, " "], m.signature, [throws, " \x7b"]],
  ["    // check that actual ", subject, " we want to make assertions on is not null."],
  ["    isNotNull();"],
  []], m.check, [
  [],
  ["    // return the current assertion for method chaining"],
  ["    return ", self, ";"],
  ["  \x7d"]]]

/-- The property of the actual object, in documentation. -/
def ofActual : Line := ["the actual ", subject, "'s ", property]

/-- The line that reads the actual value. -/
def readActual : Line := ["    ", propertyType, " actual", propertyCapital, " = ", reading, ";"]

/-! ## Equality -/

/-- A method that compares the value with a given one. The comparison has a comment in front. -/
def equality (comment : String) (differs : Line) : Method where
  doc := [
    pieces [["   * Verifies that "], ofActual, [" is equal to the given one."]],
    pieces [["   * @param ", parameter, " the given ", property, " to compare "], ofActual,
      [" to."]]]
  failure := pieces [["- if "], ofActual, [" is not equal to the given one."]]
  signature := ["has", propertyCapital, "(", propertyType, " ", parameter, ")"]
  check := [
    ["    // overrides the default error message with a more explicit one"],
    ["    String assertjErrorMessage = \"\\nExpecting ", property,
      " of:\\n  <%s>\\nto be:\\n  <%s>\\nbut was:\\n  <%s>\";"],
    [],
    ["    // ", comment],
    readActual,
    pieces [["    if ("], differs, [") \x7b"]],
    ["      failWithMessage(assertjErrorMessage, actual, ", parameter, ", actual",
      propertyCapital, ");"],
    ["    \x7d"]]

/-- Equality of values that may be null. -/
def objectEquality : Method :=
  equality "null safe check" ["!Objects.areEqual(actual", propertyCapital, ", ", parameter, ")"]

/-- Equality of primitive values. -/
def primitiveEquality : Method :=
  equality "check" ["actual", propertyCapital, " != ", parameter]

/-! ## Closeness -/

/-- The difference of the given and the actual value. -/
def difference : Line := ["Math.abs(", parameter, " - actual", propertyCapital, ")"]

/-- A method that compares the value with a given one up to an offset. The message shows the
    difference, and a check may be made first. -/
def closeness (shown : Line) (first : Layout) : Method where
  doc := [
    pieces [["   * Verifies that "], ofActual,
      [" is close to the given value by less than the given offset."]],
    ["   * <p>"],
    ["   * If difference is equal to the offset value, assertion is considered successful."],
    pieces [["   * @param ", parameter, " the value to compare "], ofActual, [" to."]],
    ["   * @param assertjOffset the given offset."]]
  failure := pieces [["- if "], ofActual, [" is not close enough to the given value."]]
  signature := ["has", propertyCapital, "CloseTo(", propertyType, " ", parameter, ", ",
    propertyType, " assertjOffset)"]
  check := blocks [[
    readActual,
    ["    String assertjErrorMessage = String.format(\"\\nExpecting ", property,
      ":\\n  <%s>\\nto be close to:\\n  <%s>\\nby less than <%s> but difference was <%s>\","],
    pieces [["                                               actual", propertyCapital, ", ",
      parameter, ", assertjOffset, "], shown, [");"]],
    [],
    ["    // check"]], first, [
    ["    Assertions.assertThat(actual", propertyCapital,
      ").overridingErrorMessage(assertjErrorMessage).isCloseTo(", parameter,
      ", Assertions.within(assertjOffset));"]]]

/-- Closeness of primitive values. -/
def primitiveCloseness : Method := closeness difference []

/-- Closeness of values that may be null. -/
def objectCloseness : Method :=
  closeness (pieces [["actual", propertyCapital, " == null ? null : "], difference]) [
    ["    if (actual", propertyCapital, " == null) failWithMessage(\"Expecting ", property,
      " not to be null.\");"]]

/-! ## Elements -/

/-- How the elements of a container are looked at. -/
structure Container where
  /-- The helper class with the checks. -/
  helper : String
  /-- What follows the container in the question whether it has elements. -/
  isNotEmpty : String

/-- Arrays. -/
def arrays : Container := ⟨"ObjectArrays", ".length > 0"⟩

/-- All other containers. -/
def iterables : Container := ⟨"Iterables", ".iterator().hasNext()"⟩

/-- A method that compares the elements with given ones. -/
def elements (c : Container) (doc : Layout) (failure name : Line) (comment check : String) :
    Method where
  doc
  failure := pieces [["if "], ofActual, failure]
  signature := pieces [name, ["(", elementType, "... ", parameter, ")"]]
  check := [
    ["    // check that given ", elementType, " varargs is not null."],
    ["    if (", parameter, " == null) failWithMessage(\"Expecting ", property,
      " parameter not to be null.\");"],
    [],
    ["    // check with standard error message", comment],
    ["    ", c.helper, ".instance().", check, "(info, ", reading, ", ", parameter, ");"]]

/-- The comment on checks for elements that must be there. -/
def messageCall : String :=
  ", to set another message call: info.overridingErrorMessage(\"my error message\");"

/-- The documentation of elements that must be there. -/
def containedParameter : Line :=
  ["   * @param ", parameter, " the given elements that should be contained in actual ", subject,
    "'s ", property, "."]

/-- When given elements are missing. -/
def missing : Line := [" does not contain all given ", elementType, " elements."]

/-- A method that asks for elements. -/
def containing (c : Container) : Method :=
  elements c [
    pieces [["   * Verifies that "], ofActual, [" contains the given ", elementType, " elements."]],
    containedParameter] missing ["has", propertyCapital] messageCall "assertContains"

/-- A method that asks for elements and no others. -/
def containingOnly (c : Container) : Method :=
  elements c [
    pieces [["   * Verifies that "], ofActual, [" contains <b>only</b> the given ", elementType,
      " elements and nothing else in whatever order."]],
    containedParameter] missing ["has", propertyCapital, "Only"] messageCall
    "assertContainsOnly"

/-- A method that asks for the absence of elements. -/
def notContaining (c : Container) : Method :=
  elements c [
    pieces [["   * Verifies that "], ofActual,
      [" does not contain the given ", elementType, " elements."]],
    ["   *"],
    ["   * @param ", parameter, " the given elements that should not be in actual ", subject,
      "'s ", property, "."]]
    [" contains any given ", elementType, " elements."] ["doesNotHave", propertyCapital]
    " (use overridingErrorMessage before contains to set your own message)."
    "assertDoesNotContain"

/-- A method that asks for emptiness. -/
def beingEmpty (c : Container) : Method where
  doc := [["   * Verifies that the actual ", subject, " has no ", property, "."]]
  failure := pieces [["if "], ofActual, [" is not empty."]]
  signature := ["hasNo", propertyCapital, "()"]
  check := [
    ["    // we override the default error message with a more explicit one"],
    ["    String assertjErrorMessage = \"\\nExpecting :\\n  <%s>\\nnot to have ", property,
      " but had :\\n  <%s>\";"],
    [],
    ["    // check"],
    ["    if (", reading, c.isNotEmpty, ") \x7b"],
    ["      failWithMessage(assertjErrorMessage, actual, ", reading, ");"],
    ["    \x7d"]]

/-! ## Predicates -/

/-- A method that asks whether a predicate, or its contrary, holds. The condition for a failure
    has a comment in front. -/
def truth (name prose contraryProse demand : Hole) (comment : String) (fails : Line)
    (report : String) : Method where
  doc := [["   * Verifies that the actual ", subject, " ", prose, "."]]
  failure := ["- if the actual ", subject, " ", contraryProse, "."]
  signature := [name, "()"]
  check := [
    ["    // check that property call/field access is ", comment],
    pieces [["    if ("], fails, [") \x7b"]],
    ["      failWithMessage(\"\\nExpecting that actual ", subject, " ", demand, report, "\");"],
    ["    \x7d"]]

/-- A method that asks whether a predicate holds. -/
def holding (fails : Line) : Method :=
  truth predicate predicateProse negationProse predicateDemand "true" fails " but was not."

/-- A method that asks whether the contrary of a predicate holds. -/
def failing (comment : String) (fails : Line) : Method :=
  truth negation negationProse predicateProse negationDemand comment fails " but was."

/-- A primitive value holds. -/
def primitiveHolding : Method := holding ["!", reading]

/-- A primitive value does not hold. -/
def primitiveFailing : Method := failing "false" [reading]

/-- A value that may be null holds. -/
def objectHolding : Method := holding ["!Boolean.TRUE.equals(", reading, ")"]

/-- A value that may be null does not hold, and is not null. -/
def objectFailing : Method := failing "true" ["!Boolean.FALSE.equals(", reading, ")"]

/-! ## Templates -/

/-- The methods for the elements of a container. -/
def ofElements (c : Container) : Layout :=
  blocks [(containing c).layout, (containingOnly c).layout, (notContaining c).layout,
    (beingEmpty c).layout]

end AssertionWriter.Template.PropertyLayout
