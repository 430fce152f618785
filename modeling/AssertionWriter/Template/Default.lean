/-
  AssertionWriter.Template.Default

  The template of every role that is used unless another one is given.
-/
import AssertionWriter.Template.ClassLayout
import AssertionWriter.Template.EntryPointLayout
import AssertionWriter.Template.PropertyLayout
import AssertionWriter.Template.Role

namespace AssertionWriter.Template.Role
open PropertyLayout

/-- The default template of a role. -/
def layout : Role → Layout
  | assertClass => ClassLayout.flat
  | hierarchicalAssertClass => ClassLayout.concrete
  | abstractAssertClass => ClassLayout.inheritable
  | has => objectEquality.layout
  | hasForArray => ofElements arrays
  | hasForIterable => ofElements iterables
  | hasForRealNumber => blocks [primitiveEquality.layout, primitiveCloseness.layout]
  | hasForRealNumberWrapper => blocks [objectEquality.layout, objectCloseness.layout]
  | hasForWholeNumber => primitiveEquality.layout
  | hasForWholeNumberWrapper => objectEquality.layout
  | hasForChar => primitiveEquality.layout
  | hasForCharacter => objectEquality.layout
  | is => blocks [primitiveHolding.layout, primitiveFailing.layout]
  | isWrapper => blocks [objectHolding.layout, objectFailing.layout]
  | isWithoutNegation => primitiveHolding.layout
  | isWrapperWithoutNegation => objectHolding.layout
  | assertionsClass => EntryPointLayout.assertions
  | bddAssertionsClass => EntryPointLayout.bddAssertions
  | softAssertionsClass => EntryPointLayout.softAssertions
  | jUnitSoftAssertionsClass => EntryPointLayout.jUnitSoftAssertions
  | autoCloseableSoftAssertionsClass => EntryPointLayout.autoCloseableSoftAssertions
  | bddSoftAssertionsClass => EntryPointLayout.bddSoftAssertions
  | jUnitBddSoftAssertionsClass => EntryPointLayout.jUnitBddSoftAssertions
  | autoCloseableBddSoftAssertionsClass => EntryPointLayout.autoCloseableBddSoftAssertions
  | assertionMethod => EntryPointLayout.direct "assertThat"
  | bddMethod => EntryPointLayout.direct "then"
  | softMethod => EntryPointLayout.soft "assertThat"
  | bddSoftMethod => EntryPointLayout.soft "then"

/-- The text of the default template. -/
def body (r : Role) : String := r.layout.toText

end AssertionWriter.Template.Role
