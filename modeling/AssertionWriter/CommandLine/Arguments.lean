/-
  AssertionWriter.CommandLine.Arguments

  The arguments of the program: the word `generate` and options behind it. An option has
  its value attached (`--type=v`, `-tv`, `-t=v`) or in the next argument, which must not look
  like an option itself.
-/
import AssertionWriter.Generation.Options

namespace AssertionWriter.CommandLine

/-- Why there is nothing to run. -/
inductive Stop where
  /-- Help is asked for. -/
  | help
  /-- The arguments are not those of the program. -/
  | misuse
  deriving DecidableEq, Repr

/-- The exit code of the program that does not run. -/
def Stop.exitCode : Stop → Nat
  | help => 0
  | misuse => 2

/-- The variables of the environment that stand for options. -/
structure Environment where
  outputDirectory : Option String
  templates : Option String
  deriving DecidableEq, Repr

/-- What the program is to do. -/
structure Command where
  /-- The file with the catalog. -/
  catalog : String
  options : GenerationOptions
  deriving DecidableEq, Repr

/-! ## Options -/

/-- An option with a value. -/
inductive ValueOption where
  | catalog | type | outputDirectory | package | entryPoint | templates | marker
  deriving DecidableEq, Repr

/-- An option without a value. -/
inductive Switch where
  | hierarchical | hiddenFields
  deriving DecidableEq, Repr

/-- What an option is. -/
inductive Flag where
  | valued (o : ValueOption)
  | switch (s : Switch)
  | help
  deriving DecidableEq, Repr

/-- The option with a long name. -/
def longFlag? (name : String) : Option Flag :=
  [("catalog", .valued .catalog), ("type", .valued .type),
    ("output-dir", .valued .outputDirectory), ("package", .valued .package),
    ("entry-point", .valued .entryPoint), ("templates", .valued .templates),
    ("marker", .valued .marker), ("hierarchical", .switch .hierarchical),
    ("include-non-public-fields", .switch .hiddenFields), ("help", .help)].lookup name

/-- The option with a letter. -/
def shortFlag? (letter : Char) : Option Flag :=
  [('c', .valued .catalog), ('t', .valued .type), ('o', .valued .outputDirectory),
    ('p', .valued .package), ('e', .valued .entryPoint), ('m', .valued .marker),
    ('h', .help)].lookup letter

/-! ## What has been read -/

/-- The options that have been given. -/
structure Given where
  catalog : Option String := none
  types : List String := []
  outputDirectory : Option String := none
  package : Option String := none
  entryPoints : List EntryPointMode := []
  templates : Option String := none
  marker : Option String := none
  hierarchical : Bool := false
  hiddenFields : Bool := false
  deriving Repr

namespace Given

/-- A value for an option that can be given once. -/
def once (old : Option String) (value : String) : Except Stop (Option String) :=
  if old.isSome then .error .misuse else .ok (some value)

/-- A path, which is not empty. -/
def path (value : String) : Except Stop String :=
  if value.isEmpty then .error .misuse else .ok value

/-- Takes a value for an option. -/
def take (g : Given) (o : ValueOption) (value : String) : Except Stop Given := do
  match o with
  | .catalog => return { g with catalog := ← once g.catalog (← path value) }
  | .type => return { g with types := g.types ++ [value] }
  | .outputDirectory =>
    return { g with outputDirectory := ← once g.outputDirectory (← path value) }
  | .package => return { g with package := ← once g.package value }
  | .entryPoint =>
    match EntryPointMode.parse? value with
    | some mode => return { g with entryPoints := g.entryPoints ++ [mode] }
    | none => throw .misuse
  | .templates => return { g with templates := ← once g.templates (← path value) }
  | .marker => return { g with marker := ← once g.marker value }

/-- Takes an option without a value, which can be given once. -/
def turnOn (g : Given) : Switch → Except Stop Given
  | .hierarchical =>
    if g.hierarchical then .error .misuse else .ok { g with hierarchical := true }
  | .hiddenFields =>
    if g.hiddenFields then .error .misuse else .ok { g with hiddenFields := true }

end Given

/-! ## Reading -/

/-- The parts of an argument. -/
inductive Argument where
  /-- The mark behind which there are no options. -/
  | endOfOptions
  /-- An option, with the value attached to it. -/
  | option (flag : Flag) (attached : Option String)
  /-- Something else. -/
  | word
  deriving DecidableEq, Repr

/-- The value behind a letter, without an equals sign in front. -/
def attachedToLetter : List Char → Option String
  | [] => none
  | '=' :: value => some (String.ofList value)
  | value => some (String.ofList value)

/-- The parts of an option with a long name. -/
def longOption (text : List Char) : Except Stop Argument :=
  match longFlag? (String.ofList (text.takeWhile (· ≠ '='))) with
  | none => .error .misuse
  | some flag =>
    match text.dropWhile (· ≠ '=') with
    | [] => .ok (.option flag none)
    | _ :: value => .ok (.option flag (some (String.ofList value)))

/-- The parts of an argument; help is had by its letter, whatever stands behind it. -/
def Argument.parse (text : String) : Except Stop Argument :=
  match text.toList with
  | ['-', '-'] => .ok .endOfOptions
  | '-' :: '-' :: long => longOption long
  | '-' :: 'h' :: _ => .error .help
  | '-' :: letter :: rest =>
    match shortFlag? letter with
    | none => .error .misuse
    | some flag => .ok (.option flag (attachedToLetter rest))
  | _ => .ok .word

/-- Whether an argument cannot be the value of the option in front. -/
def looksLikeOption (text : String) : Bool := text.toList.head? = some '-' && text ≠ "-"

/-- Reads the options in some arguments. -/
def readOptions (g : Given) : List String → Except Stop Given
  | [] => .ok g
  | text :: rest =>
    match Argument.parse text with
    | .error stop => .error stop
    | .ok .word => .error .misuse
    | .ok .endOfOptions => if rest.isEmpty then .ok g else .error .misuse
    -- Help is had as soon as it is asked for, even if what follows is wrong.
    | .ok (.option .help none) => .error .help
    | .ok (.option .help (some _)) => .error .misuse
    | .ok (.option (.switch s) none) =>
      match g.turnOn s with
      | .error stop => .error stop
      | .ok g => readOptions g rest
    | .ok (.option (.switch _) (some _)) => .error .misuse
    | .ok (.option (.valued o) (some value)) =>
      match g.take o value with
      | .error stop => .error stop
      | .ok g => readOptions g rest
    | .ok (.option (.valued o) none) =>
      match rest with
      | [] => .error .misuse
      | value :: rest =>
        -- A value that looks like an option can only be attached.
        if looksLikeOption value then .error .misuse
        else
          match g.take o value with
          | .error stop => .error stop
          | .ok g => readOptions g rest

/-- A path from an option, or else from the environment. -/
def pathOr (given fromEnvironment : Option String) : Except Stop (Option String) :=
  match given, fromEnvironment with
  | some path, _ => .ok (some path)
  | none, some path => some <$> Given.path path
  | none, none => .ok none

/-- What the options ask for. The file with the catalog must be given. -/
def Given.command (g : Given) (env : Environment) : Except Stop Command := do
  let outputDirectory ← pathOr g.outputDirectory env.outputDirectory
  let templatesDirectory ← pathOr g.templates env.templates
  match g.catalog with
  | none => throw .misuse
  | some catalog =>
    return {
      catalog
      options := {
        types := g.types
        outputDirectory := outputDirectory.getD GenerationOptions.defaultOutputDirectory
        package := g.package
        hierarchical := g.hierarchical
        entryPoints :=
          if g.entryPoints.isEmpty then GenerationOptions.defaultEntryPoints else g.entryPoints
        templatesDirectory
        marker := g.marker
        hiddenFields := g.hiddenFields } }

/-- Reads the arguments of the program. -/
def Command.parse (env : Environment) : List String → Except Stop Command
  | "generate" :: rest => do (← readOptions {} rest).command env
  | ["help"] | ["help", "generate"] | ["help", "help"] => .error .help
  | text :: _ =>
    match Argument.parse text with
    | .error .help | .ok (.option .help none) => .error .help
    | _ => .error .misuse
  | [] => .error .misuse

end AssertionWriter.CommandLine
