/-
  AssertionWriter.EntryPoint.Mode

  The kinds of entry points, their names, and the templates they are made from.
-/
import AssertionWriter.Template.Role

namespace AssertionWriter
open Template

/-- A kind of entry point. -/
inductive EntryPointMode where
  | standard
  | bdd
  | soft
  | jUnitSoft
  | autoCloseableSoft
  | bddSoft
  | jUnitBddSoft
  | autoCloseableBddSoft
  deriving DecidableEq, Repr

namespace EntryPointMode

/-- Every mode. -/
def all : List EntryPointMode :=
  [standard, bdd, soft, jUnitSoft, autoCloseableSoft, bddSoft, jUnitBddSoft,
    autoCloseableBddSoft]

/-- The name of a mode on command lines and in documents. -/
def name : EntryPointMode → String
  | standard => "standard"
  | bdd => "bdd"
  | soft => "soft"
  | jUnitSoft => "junit-soft"
  | autoCloseableSoft => "auto-closeable-soft"
  | bddSoft => "bdd-soft"
  | jUnitBddSoft => "junit-bdd-soft"
  | autoCloseableBddSoft => "auto-closeable-bdd-soft"

/-- The modes by their names. -/
def variants : List (String × EntryPointMode) := all.map fun m => (m.name, m)

/-- The role of the template for the class. -/
def classRole : EntryPointMode → Role
  | standard => .assertionsClass
  | bdd => .bddAssertionsClass
  | soft => .softAssertionsClass
  | jUnitSoft => .jUnitSoftAssertionsClass
  | autoCloseableSoft => .autoCloseableSoftAssertionsClass
  | bddSoft => .bddSoftAssertionsClass
  | jUnitBddSoft => .jUnitBddSoftAssertionsClass
  | autoCloseableBddSoft => .autoCloseableBddSoftAssertionsClass

/-- The role of the template for a method, one for all soft modes with the same words. -/
def methodRole : EntryPointMode → Role
  | standard => .assertionMethod
  | bdd => .bddMethod
  | soft | jUnitSoft | autoCloseableSoft => .softMethod
  | bddSoft | jUnitBddSoft | autoCloseableBddSoft => .bddSoftMethod

/-- The file of an entry point whose class has no name that can be made out. -/
def defaultFile : EntryPointMode → String
  | standard => "Assertions.java"
  | bdd => "BddAssertions.java"
  | soft => "SoftAssertions.java"
  | jUnitSoft => "JUnitSoftAssertions.java"
  | autoCloseableSoft => "AutoCloseableSoftAssertions.java"
  | bddSoft => "BddSoftAssertions.java"
  | jUnitBddSoft => "JUnitBddSoftAssertions.java"
  | autoCloseableBddSoft => "AutoCloseableBddSoftAssertions.java"

/-! ## Reading -/

/-- A name with letters of either case and with underscores, as modes are named. -/
def normalized (text : String) : String :=
  String.ofList ((Text.trim text.toList).map fun c => if c = '_' then '-' else c.toLower)

/-- The mode with a name, in letters of either case, with hyphens or underscores, and with white
    space around it. -/
def parse? (text : String) : Option EntryPointMode := all.find? (·.name = normalized text)

/-- The wording of a name that no mode has. -/
def unknownMessage (text : String) : String :=
  "unknown entry point mode '" ++ text ++ "' (expected one of: " ++
    ", ".intercalate (all.map name) ++ ")"

end EntryPointMode
end AssertionWriter
