/-
  AssertionWriter.Template.ClassLayout

  The frames of assertion classes: everything from the package to the constructors, with
  the class left open for the methods of the properties.
-/
import AssertionWriter.Template.Layout

namespace AssertionWriter.Template.ClassLayout
open Hole

/-- The package, and the imports in front of the documentation of the class. -/
def opening : Layout := [
  ["package ", package, ";"],
  [],
  [imports, "/**"]]

/-- The first lines of the documentation of a constructor. -/
def constructorDoc : Layout := [
  [],
  ["  /**"],
  ["   * Creates a new <code>\x7b@link ", assertClass,
    "\x7d</code> to make assertions on actual ", subject, "."],
  ["   * @param actual the ", subject, " we want to make assertions on."]]

/-- The constructor and the entry point of a class whose objects are made directly. -/
def creation : Layout := blocks [constructorDoc, [
  ["   */"],
  ["  public ", assertClass, "(", subject, " actual) \x7b"],
  ["    super(actual, ", assertClass, ".class);"],
  ["  \x7d"],
  [],
  ["  /**"],
  ["   * An entry point for ", assertClass,
    " to follow the standard <code>assertThat()</code> statements.<br>"],
  ["   * With a static import, one can write directly: <code>assertThat(my", subject,
    ")</code> and get specific assertion with code completion."],
  ["   * @param actual the ", subject, " we want to make assertions on."],
  ["   * @return a new <code>\x7b@link ", assertClass, "\x7d</code>"],
  ["   */"],
  ["  @org.assertj.core.util.CheckReturnValue"],
  ["  public static ", assertClass, " assertThat(", subject, " actual) \x7b"],
  ["    return new ", assertClass, "(actual);"],
  ["  \x7d"]]]

/-- The frame of a class that holds all methods itself. -/
def flat : Layout := blocks [opening, [
  [" * \x7b@link ", subject, "\x7d specific assertions - Generated by assertgen."],
  [" */"],
  ["public class ", assertClass, " extends AbstractObjectAssert<", assertClass, ", ", subject,
    "> \x7b"]], creation]

/-- The frame of a class that inherits its methods from the abstract class of its subject. -/
def concrete : Layout := blocks [opening, [
  [" * \x7b@link ", subject, "\x7d specific assertions - Generated by assertgen."],
  [" *"],
  [" * Although this class is not final to allow soft assertion proxies, extend"],
  [" * \x7b@link Abstract", assertClass, "\x7d instead if you need to add assertions."],
  [" */"],
  ["public class ", assertClass, " extends Abstract", assertClass, "<", assertClass, ", ",
    subject, "> \x7b"]], creation]

/-- The frame of an abstract class, whose methods give back the object of a subclass. -/
def inheritable : Layout := blocks [opening, [
  [" * Abstract base class for \x7b@link ", subject,
    "\x7d specific assertions - Generated by assertgen."],
  [" */"],
  ["public abstract class ", assertClass, "<S extends ", assertClass, "<S, A>, A extends ",
    subject, "> extends ", superclass, "<S, A> \x7b"]], constructorDoc, [
  ["   * @param selfType the concrete assertion class."],
  ["   */"],
  ["  protected ", assertClass, "(A actual, Class<S> selfType) \x7b"],
  ["    super(actual, selfType);"],
  ["  \x7d"]]]

end AssertionWriter.Template.ClassLayout
