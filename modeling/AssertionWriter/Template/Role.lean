/-
  AssertionWriter.Template.Role

  What templates are for: the frames of classes, the methods for a property, and the
  classes and methods of entry points; the names of these roles, and the files that hold
  templates for them.
-/
import AssertionWriter.Text.Blank

namespace AssertionWriter.Template

/-- What a template is for. -/
inductive Role where
  | assertClass
  | hierarchicalAssertClass
  | abstractAssertClass
  | has
  | hasForArray
  | hasForIterable
  | hasForRealNumber
  | hasForRealNumberWrapper
  | hasForWholeNumber
  | hasForWholeNumberWrapper
  | hasForChar
  | hasForCharacter
  | is
  | isWrapper
  | isWithoutNegation
  | isWrapperWithoutNegation
  | assertionsClass
  | bddAssertionsClass
  | softAssertionsClass
  | jUnitSoftAssertionsClass
  | autoCloseableSoftAssertionsClass
  | bddSoftAssertionsClass
  | jUnitBddSoftAssertionsClass
  | autoCloseableBddSoftAssertionsClass
  | assertionMethod
  | bddMethod
  | softMethod
  | bddSoftMethod
  deriving DecidableEq, Repr

namespace Role

/-- Every role, in the order in which they are listed. -/
def all : List Role := [
  assertClass, hierarchicalAssertClass, abstractAssertClass,
  has, hasForArray, hasForIterable, hasForRealNumber, hasForRealNumberWrapper, hasForWholeNumber,
  hasForWholeNumberWrapper, hasForChar, hasForCharacter,
  is, isWrapper, isWithoutNegation, isWrapperWithoutNegation,
  assertionsClass, bddAssertionsClass, softAssertionsClass, jUnitSoftAssertionsClass,
  autoCloseableSoftAssertionsClass, bddSoftAssertionsClass, jUnitBddSoftAssertionsClass,
  autoCloseableBddSoftAssertionsClass,
  assertionMethod, bddMethod, softMethod, bddSoftMethod]

theorem mem_all (r : Role) : r ∈ all := by cases r <;> decide

theorem nodup_all : all.Nodup := by decide

/-- The name of a role. -/
def name : Role → String
  | assertClass => "ASSERT_CLASS"
  | hierarchicalAssertClass => "HIERARCHICAL_ASSERT_CLASS"
  | abstractAssertClass => "ABSTRACT_ASSERT_CLASS"
  | has => "HAS"
  | hasForArray => "HAS_FOR_ARRAY"
  | hasForIterable => "HAS_FOR_ITERABLE"
  | hasForRealNumber => "HAS_FOR_REAL_NUMBER"
  | hasForRealNumberWrapper => "HAS_FOR_REAL_NUMBER_WRAPPER"
  | hasForWholeNumber => "HAS_FOR_WHOLE_NUMBER"
  | hasForWholeNumberWrapper => "HAS_FOR_WHOLE_NUMBER_WRAPPER"
  | hasForChar => "HAS_FOR_CHAR"
  | hasForCharacter => "HAS_FOR_CHARACTER"
  | is => "IS"
  | isWrapper => "IS_WRAPPER"
  | isWithoutNegation => "IS_WITHOUT_NEGATION"
  | isWrapperWithoutNegation => "IS_WRAPPER_WITHOUT_NEGATION"
  | assertionsClass => "ASSERTIONS_ENTRY_POINT_CLASS"
  | bddAssertionsClass => "BDD_ASSERTIONS_ENTRY_POINT_CLASS"
  | softAssertionsClass => "SOFT_ASSERTIONS_ENTRY_POINT_CLASS"
  | jUnitSoftAssertionsClass => "JUNIT_SOFT_ASSERTIONS_ENTRY_POINT_CLASS"
  | autoCloseableSoftAssertionsClass => "AUTO_CLOSEABLE_SOFT_ASSERTIONS_ENTRY_POINT_CLASS"
  | bddSoftAssertionsClass => "BDD_SOFT_ASSERTIONS_ENTRY_POINT_CLASS"
  | jUnitBddSoftAssertionsClass => "JUNIT_BDD_SOFT_ASSERTIONS_ENTRY_POINT_CLASS"
  | autoCloseableBddSoftAssertionsClass => "AUTO_CLOSEABLE_BDD_SOFT_ASSERTIONS_ENTRY_POINT_CLASS"
  | assertionMethod => "ASSERTION_ENTRY_POINT"
  | bddMethod => "BDD_ENTRY_POINT"
  | softMethod => "SOFT_ENTRY_POINT"
  | bddSoftMethod => "BDD_SOFT_ENTRY_POINT"

/-- The name of a role in documents, where the words of `JUnit` are two. -/
def documentName : Role → String
  | jUnitSoftAssertionsClass => "J_UNIT_SOFT_ASSERTIONS_ENTRY_POINT_CLASS"
  | jUnitBddSoftAssertionsClass => "J_UNIT_BDD_SOFT_ASSERTIONS_ENTRY_POINT_CLASS"
  | r => r.name

/-- The roles by their names in documents. -/
def variants : List (String × Role) := all.map fun r => (r.documentName, r)

/-- The name of the file that holds a template for the role. -/
def file : Role → String
  | assertClass => "custom_assertion_class_template.txt"
  | hierarchicalAssertClass => "custom_hierarchical_assertion_class_template.txt"
  | abstractAssertClass => "custom_abstract_assertion_class_template.txt"
  | has => "has_assertion_template.txt"
  | hasForArray => "has_elements_assertion_template_for_array.txt"
  | hasForIterable => "has_elements_assertion_template_for_iterable.txt"
  | hasForRealNumber => "has_assertion_template_for_real_number.txt"
  | hasForRealNumberWrapper => "has_assertion_template_for_real_number_wrapper.txt"
  | hasForWholeNumber => "has_assertion_template_for_whole_number.txt"
  | hasForWholeNumberWrapper => "has_assertion_template_for_whole_number_wrapper.txt"
  | hasForChar => "has_assertion_template_for_char.txt"
  | hasForCharacter => "has_assertion_template_for_character.txt"
  | is => "is_assertion_template.txt"
  | isWrapper => "is_wrapper_assertion_template.txt"
  | isWithoutNegation => "is_without_negation_assertion_template.txt"
  | isWrapperWithoutNegation => "is_wrapper_without_negation_assertion_template.txt"
  | assertionsClass => "standard_assertions_entry_point_class_template.txt"
  | bddAssertionsClass => "bdd_assertions_entry_point_class_template.txt"
  | softAssertionsClass => "soft_assertions_entry_point_class_template.txt"
  | jUnitSoftAssertionsClass => "junit_soft_assertions_entry_point_class_template.txt"
  | autoCloseableSoftAssertionsClass =>
    "auto_closeable_soft_assertions_entry_point_class_template.txt"
  | bddSoftAssertionsClass => "bdd_soft_assertions_entry_point_class_template.txt"
  | jUnitBddSoftAssertionsClass => "junit_bdd_soft_assertions_entry_point_class_template.txt"
  | autoCloseableBddSoftAssertionsClass =>
    "auto_closeable_bdd_soft_assertions_entry_point_class_template.txt"
  | assertionMethod => "standard_assertion_entry_point_method_template.txt"
  | bddMethod => "bdd_assertion_entry_point_method_template.txt"
  | softMethod => "soft_assertion_entry_point_method_template.txt"
  | bddSoftMethod => "bdd_soft_assertion_entry_point_method_template.txt"

/-- The role with a name, in letters of either case and with white space around it. -/
def parse? (text : String) : Option Role :=
  let wanted := (Text.trim text.toList).map Char.toLower
  all.find? fun r => r.name.toList.map Char.toLower = wanted

end Role
end AssertionWriter.Template
