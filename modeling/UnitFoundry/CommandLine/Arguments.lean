import UnitFoundry.Compile.Request
import UnitFoundry.Config.Basic

/-! # Arguments of the command line

A command line asks for the version, for help, or for one of two commands. The arguments of a
command are a path and options. An option may be followed by its value or joined to it by an equals
sign; a value that follows may not look like an option, unless the option takes any value. After
`--` nothing is an option. Arguments are read from the left, and the first that is used wrongly or
that asks for help decides. -/

namespace UnitFoundry

/-- What a unit is compiled from, and what is done with it. -/
structure CompileArguments where
  /-- The path of the source. -/
  source : String
  /-- The path of the configuration. -/
  config : Option String := none
  /-- The paths of units to reference. -/
  references : List String := []
  /-- Directories that are searched before the configured ones. -/
  hintPaths : List String := []
  /-- The compiler in place of the configured one. -/
  compiler : Option CompilerKind := none
  /-- What the unit is made for. -/
  kind : OutputKind := .library
  /-- Whether warnings count as errors, whatever the configuration says. -/
  warningsAsErrors : Bool := false
  /-- The member to call. -/
  member : Option String := none
  /-- The arguments of the call. -/
  arguments : List String := []
deriving DecidableEq, Repr

/-- Which unit's references are listed. -/
structure ResolveArguments where
  /-- The path of the unit. -/
  unit : String
  /-- The path of the configuration. -/
  config : Option String := none
  /-- Directories that are searched before the configured ones. -/
  hintPaths : List String := []
deriving DecidableEq, Repr

/-- What a command line asks for. -/
inductive CommandLine where
  /-- The version. -/
  | version
  /-- How the command line is used. -/
  | help
  /-- A unit is compiled, loaded and perhaps called. -/
  | compile (a : CompileArguments)
  /-- The references of a unit are listed. -/
  | resolve (a : ResolveArguments)
deriving DecidableEq, Repr

namespace CommandLine

/-! ## Options -/

/-- Which values an option takes. -/
inductive ValueRule where
  /-- None. -/
  | nothing
  /-- Any value that does not look like an option. -/
  | plain
  /-- Any value. -/
  | anything
deriving DecidableEq, Repr

/-- An option. -/
structure OptionRule where
  /-- Its name. -/
  name : String
  /-- Which values it takes. -/
  value : ValueRule := .plain
  /-- Whether it may be given more than once. -/
  repeats : Bool := false
  /-- Whether its value may be empty. -/
  mayBeEmpty : Bool := false
  /-- The values that it may have, if not every value will do. -/
  choices : Option (List String) := none
deriving DecidableEq, Repr

/-- The option that names the configuration. -/
def configRule : OptionRule := { name := "config" }

/-- The option that adds a directory to search. -/
def hintPathRule : OptionRule := { name := "hint-path", repeats := true }

/-- The options of the command that compiles. -/
def compileRules : List OptionRule :=
  [configRule, { name := "reference", repeats := true }, hintPathRule,
    { name := "compiler", choices := some ["wat", "rustc"] },
    { name := "kind", choices := some ["library", "command"] },
    { name := "warnings-as-errors", value := .nothing },
    { name := "invoke", mayBeEmpty := true },
    { name := "arg", value := .anything, repeats := true, mayBeEmpty := true }]

/-- The options of the command that lists references. -/
def resolveRules : List OptionRule :=
  [configRule, hintPathRule]

/-- An argument of a command. -/
inductive Given where
  /-- An argument that is no option. -/
  | positional (s : String)
  /-- An option with its value, which is empty for an option that takes none. -/
  | option (name value : String)
deriving DecidableEq, Repr

/-- Why arguments are not accepted. -/
inductive Refusal where
  /-- They ask for help instead. -/
  | help
  /-- They are used wrongly. -/
  | misuse
deriving DecidableEq, Repr

/-- Whether an argument looks like an option. -/
def looksLikeOption (s : String) : Bool :=
  s.toList.head? = some '-' && s ≠ "-"

/-- The name of a long option, and the value joined to it. -/
def splitLong? (s : String) : Option (String × Option String) :=
  match s.toList with
  | '-' :: '-' :: cs =>
    let name := String.ofList (cs.takeWhile (· ≠ '='))
    match cs.dropWhile (· ≠ '=') with
    | _ :: value => some (name, some (String.ofList value))
    | [] => some (name, none)
  | _ => none

/-- Whether an argument asks for help. -/
def asksForHelp (s : String) : Bool :=
  s = "--help" || ['-', 'h'].isPrefixOf s.toList

/-- The values of an option, in order. -/
def valuesOf (given : List Given) (rule : OptionRule) : List String :=
  given.filterMap fun
    | .option name value => if name = rule.name then some value else none
    | .positional _ => none

/-- The arguments that are no options. -/
def positionals (given : List Given) : List String :=
  given.filterMap fun
    | .positional s => some s
    | .option _ _ => none

/-- Adds the path that a command takes, which is given once and not empty. -/
def addPath (given : List Given) (s : String) : Except Refusal (List Given) :=
  if s.isEmpty || !(positionals given).isEmpty then .error .misuse
  else .ok (given ++ [.positional s])

/-- Whether an option may have a value. -/
def OptionRule.admits (rule : OptionRule) (value : String) : Bool :=
  (rule.mayBeEmpty || rule.value = .nothing || !value.isEmpty) &&
    (rule.choices.all (·.contains value))

/-- Adds an option, which is not given more often than it may be. -/
def addOption (given : List Given) (rule : OptionRule) (value : String) :
    Except Refusal (List Given) :=
  if rule.admits value && (rule.repeats || (valuesOf given rule).isEmpty) then
    .ok (given ++ [.option rule.name value])
  else .error .misuse

/-- Tells options, their values and other arguments apart, and adds them to those given before. -/
def scan (rules : List OptionRule) (given : List Given) :
    List String → Except Refusal (List Given)
  | [] => .ok given
  | "--" :: rest => rest.foldlM addPath given
  | s :: rest =>
    if asksForHelp s then .error .help
    else if !looksLikeOption s then do scan rules (← addPath given s) rest
    else
      match splitLong? s with
      | none => .error .misuse
      | some (name, joined) =>
        match rules.find? (·.name = name), joined with
        | none, _ => .error .misuse
        | some rule, some value =>
          if rule.value = .nothing then .error .misuse
          else do scan rules (← addOption given rule value) rest
        | some rule, none =>
          if rule.value = .nothing then do scan rules (← addOption given rule "") rest
          else
            match rest with
            | [] => .error .misuse
            | value :: rest =>
              if rule.value = .plain ∧ looksLikeOption value then .error .misuse
              else do scan rules (← addOption given rule value) rest

/-- The value of an option by its name. -/
def value? (given : List Given) (name : String) : Option String :=
  (valuesOf given { name }).head?

/-- Reads a value by a function, if there is a value. -/
def readValue? {α : Type} (read : String → Option α) : Option String → Option (Option α)
  | none => some none
  | some s => (read s).map some

/-- The kind of unit of a name. -/
def kindOfName? : String → Option OutputKind
  | "library" => some .library
  | "command" => some .command
  | _ => none

/-! ## Commands -/

/-- Takes a part of arguments that must be there. -/
def need {α : Type} : Option α → Except Refusal α
  | some a => .ok a
  | none => .error .misuse

/-- Reads the arguments of the command that compiles. -/
def readCompile (arguments : List String) : Except Refusal CompileArguments := do
  let given ← scan compileRules [] arguments
  let all (name : String) := valuesOf given { name }
  let source ← need (positionals given).head?
  let compiler ← need (readValue? CompilerKind.ofName? (value? given "compiler"))
  let kind ← need (readValue? kindOfName? (value? given "kind"))
  let member := value? given "invoke"
  if member.isNone && !(all "arg").isEmpty then throw .misuse
  return { source
           config := value? given "config"
           references := all "reference"
           hintPaths := all "hint-path"
           compiler
           kind := kind.getD .library
           warningsAsErrors := (value? given "warnings-as-errors").isSome
           member
           arguments := all "arg" }

/-- Reads the arguments of the command that lists references. -/
def readResolve (arguments : List String) : Except Refusal ResolveArguments := do
  let given ← scan resolveRules [] arguments
  return { unit := ← need (positionals given).head?
           config := value? given "config"
           hintPaths := valuesOf given hintPathRule }

/-- Whether an argument asks for the version by a short option. -/
def isShortVersion (s : String) : Bool :=
  ['-', 'V'].isPrefixOf s.toList

/-- Whether help on these commands can be had. There is help on each command, and on help. -/
def isHelpTopic : List String → Bool
  | [] => true
  | [command] => ["compile", "resolve", "help"].contains command
  | _ => false

/-- What the arguments ask for, unless they are used wrongly. -/
def ofArguments? : List String → Option CommandLine
  | [] => none
  | "help" :: topic => if isHelpTopic topic then some .help else none
  | "compile" :: rest => answer (readCompile rest |>.map .compile)
  | "resolve" :: rest => answer (readResolve rest |>.map .resolve)
  | s :: _ =>
    if s = "--version" || isShortVersion s then some .version
    else if asksForHelp s then some .help
    else none
where
  /-- Help is asked for like anything else. -/
  answer : Except Refusal CommandLine → Option CommandLine
    | .ok c => some c
    | .error .help => some .help
    | .error .misuse => none

end CommandLine

end UnitFoundry
