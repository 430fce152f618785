/-
  AssertionWriter.Template.EntryPointLayout

  The classes that gather one method for each assertion class, and these methods.
-/
import AssertionWriter.Template.Layout

namespace AssertionWriter.Template.EntryPointLayout
open Hole

/-! ## Classes -/

/-- A line of documentation. -/
def docLine (text : String) : Line := [" * ", text]

/-- The lines of a class up to its methods. -/
def opening (doc : List String) (declaration : String) : Layout := blocks [[
  ["package ", package, ";"],
  [],
  ["/**"]], doc.map docLine, [
  [" */"],
  ["public class ", declaration, " \x7b"]]]

/-- A class that inherits everything but the methods. -/
def derived (doc : List String) (name super : String) : Layout :=
  blocks [opening doc (name ++ " extends org.assertj.core.api." ++ super),
    [[entryPoints, "\x7d"]]]

/-- A class that is never instantiated. -/
def standalone (doc : List String) (name : String) : Layout := blocks [opening doc name, [
  [entryPoints],
  ["  /**"],
  ["   * Creates a new <code>\x7b@link ", name, "\x7d</code>."],
  ["   */"],
  ["  protected ", name, "() \x7b"],
  ["    // empty"],
  ["  \x7d"],
  ["\x7d"]]]

/-- The documentation of a class that closes itself. -/
def closeableDoc (name : String) : List String := [
  "A version of \x7b@link " ++ name ++
    "\x7d that uses try-with-resources statement to automatically call",
  "\x7b@link " ++ name ++ "#assertAll()\x7d so that you don't forget to."]

/-- The documentation of a class that is a rule of a test framework. -/
def ruleDoc (name : String) : List String := [
  "Like \x7b@link " ++ name ++ "\x7d but as a junit rule that takes care of calling",
  "\x7b@link " ++ name ++ "#assertAll() assertAll()\x7d at the end of each test method."]

/-- The standard assertions. -/
def assertions : Layout := standalone [
  "Entry point for assertions of different data types. Each method in this class is a " ++
    "static factory for the",
  "type-specific assertion objects."] "Assertions"

/-- Assertions in the words of behaviour-driven development. -/
def bddAssertions : Layout :=
  standalone ["Entry point for BDD assertions of different data types."] "BddAssertions"

/-- Assertions that gather their failures. -/
def softAssertions : Layout :=
  derived ["Entry point for soft assertions of different data types."] "SoftAssertions"
    "SoftAssertions"

/-- Soft assertions as a test rule. -/
def jUnitSoftAssertions : Layout :=
  derived (ruleDoc "SoftAssertions") "JUnitSoftAssertions" "JUnitSoftAssertions"

/-- Soft assertions that close themselves. -/
def autoCloseableSoftAssertions : Layout :=
  derived (closeableDoc "SoftAssertions") "AutoCloseableSoftAssertions"
    "AutoCloseableSoftAssertions"

/-- Soft assertions in the words of behaviour-driven development. -/
def bddSoftAssertions : Layout :=
  derived ["Entry point for BDD soft assertions of different data types."] "BddSoftAssertions"
    "BDDSoftAssertions"

/-- The same as a test rule. -/
def jUnitBddSoftAssertions : Layout :=
  derived (ruleDoc "BddSoftAssertions") "JUnitBddSoftAssertions" "JUnitBDDSoftAssertions"

/-- The same, closing themselves. -/
def autoCloseableBddSoftAssertions : Layout :=
  derived (closeableDoc "BddSoftAssertions") "AutoCloseableBddSoftAssertions"
    "AutoCloseableBDDSoftAssertions"

/-! ## Methods -/

/-- A method that creates an assertion object. -/
def method (doc : String) (modifiers name : String) (result : Line) : Layout := [
  [],
  ["  /**"],
  ["   * Creates a new ", doc, "instance of <code>\x7b@link ", assertClass, "\x7d</code>."],
  ["   *"],
  ["   * @param actual the actual value."],
  ["   * @return the created ", doc, "instance of assertion object."],
  ["   */"],
  ["  @org.assertj.core.util.CheckReturnValue"],
  ["  ", modifiers, " ", assertClass, " ", name, "(", subject, " actual) \x7b"],
  pieces [["    return "], result, [";"]],
  ["  \x7d"]]

/-- A method that creates an assertion object directly. -/
def direct (name : String) : Layout :=
  method "" "public static" name ["new ", assertClass, "(actual)"]

/-- A method that creates an assertion object which gathers failures. -/
def soft (name : String) : Layout :=
  method "\"soft\" " "public" name ["proxy(", assertClass, ".class, ", subject,
    ".class, actual)"]

end AssertionWriter.Template.EntryPointLayout
