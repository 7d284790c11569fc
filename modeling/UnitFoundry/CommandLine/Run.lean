import UnitFoundry.CommandLine.Arguments
import UnitFoundry.Config.Document
import UnitFoundry.Decimal.Integer
import UnitFoundry.Decimal.Numeral
import UnitFoundry.Decimal.Shortest
import UnitFoundry.Generator.Basic
import UnitFoundry.Reference.Report

/-! # Running the command line

A run reads files and the environment, writes to standard output and ends with a code, and with an
error if it fails. What it has written before it fails, or before it runs code that never ends,
stays written. -/

namespace UnitFoundry

/-- Why a run of the command line fails. -/
inductive CommandError where
  /-- The configuration cannot be read. -/
  | config (e : ConfigError)
  /-- References cannot be resolved. -/
  | resolve (e : ResolveError)
  /-- The source cannot be read. -/
  | source (path : String) (f : Fault)
  /-- No unit comes of the source. -/
  | compile (e : CompileError)
  /-- A member of the unit gives no results. -/
  | member (unit name : String) (f : MemberFault)
  /-- The number of arguments is not that of the member's parameters. -/
  | argumentCount (name : String) (needed given : Nat)
  /-- An argument is no integer of the type that is needed. -/
  | notInteger (argument type : String) (f : Decimal.IntegerFault)
  /-- An argument is no floating-point number of the type that is needed. -/
  | notNumeral (argument type : String) (f : Decimal.NumeralFault)
  /-- No argument can have the type that is needed. -/
  | unsupported (t : Wasm.ValType)
deriving DecidableEq, Repr

namespace CommandError

/-- What the error says to a reader. -/
def message : CommandError → String
  | .config e => e.message
  | .resolve e => e.message
  | .source path _ => "Failed to read " ++ path
  | .compile e => e.message
  | .member unit name f => f.message unit name
  | .argumentCount name needed given =>
    "'" ++ name ++ "' takes " ++ toString needed ++ " argument(s), " ++ toString given ++ " given"
  | .notInteger argument type _ | .notNumeral argument type _ =>
    "'" ++ argument ++ "' is not an " ++ type
  | .unsupported t =>
    "parameters of type " ++ t.label ++ " cannot be passed from the command line"

/-- The cause behind the error, if it has one of its own. -/
def cause? : CommandError → Option String
  | .config (.unreadable _ f) => some f.message
  | .source _ f => some f.message
  | .compile (.unanswered (.files f)) => some f.message
  | .notInteger _ _ f => some f.message
  | .notNumeral _ _ f => some f.message
  | _ => none

/-- A message with the cause behind it. -/
def reportOf (message : String) (cause : Option String) : String :=
  "Error: " ++ message ++
    match cause with
    | some c => "\n\nCaused by:\n    " ++ c
    | none => ""

/-- What is written to standard error. -/
def report (e : CommandError) : String :=
  reportOf e.message e.cause?

end CommandError

/-- What comes of a run of the command line. -/
structure CommandResult where
  /-- What is written to standard output. -/
  output : String := ""
  /-- Whether the run ends, and why it fails if it does. -/
  ending : Outcome CommandError Unit := .ok ()
  /-- The programs that have been run. -/
  calls : List Call := []

namespace CommandLine

/-! ## Values -/

/-- Reads an argument as a value of a type. -/
def readArgument (t : Wasm.ValType) (s : String) : Except CommandError Wasm.Value :=
  match t with
  | .num .i32 =>
    match Decimal.readInteger (-0x80000000) 0x7FFFFFFF s with
    | .ok n => .ok (.i32 (Int32.ofInt n).toUInt32)
    | .error f => .error (.notInteger s Wasm.NumType.i32.name f)
  | .num .i64 =>
    match Decimal.readInteger (-0x8000000000000000) 0x7FFFFFFFFFFFFFFF s with
    | .ok n => .ok (.i64 (Int64.ofInt n).toUInt64)
    | .error f => .error (.notInteger s Wasm.NumType.i64.name f)
  | .num .f32 =>
    match Decimal.FloatFormat.single.read s with
    | .ok bits => .ok (.f32 (UInt32.ofNat bits))
    | .error f => .error (.notNumeral s Wasm.NumType.f32.name f)
  | .num .f64 =>
    match Decimal.FloatFormat.double.read s with
    | .ok bits => .ok (.f64 (UInt64.ofNat bits))
    | .error f => .error (.notNumeral s Wasm.NumType.f64.name f)
  | .vector | .ref _ => .error (.unsupported t)

/-- A value as it is written. -/
def showValue : Wasm.Value → String
  | .i32 v => toString v.toInt32.toInt
  | .i64 v => toString v.toInt64.toInt
  | .f32 bits => Decimal.FloatFormat.single.toText bits.toNat
  | .f64 bits => Decimal.FloatFormat.double.toText bits.toNat
  | .vector => Wasm.ValType.vector.label ++ "(0)"
  | .null t => (Wasm.ValType.ref t).label ++ "(None)"

/-- Reads arguments as values of the types of parameters. -/
def readArguments (name : String) (params : List Wasm.ValType) (arguments : List String) :
    Except CommandError (List Wasm.Value) :=
  if params.length ≠ arguments.length then
    .error (.argumentCount name params.length arguments.length)
  else (params.zip arguments).mapM fun (t, s) => readArgument t s

/-- Calls a member with arguments as they are written: the lines of its results. -/
def callMember (u : LoadedUnit Wasm.engine) (name : String) (arguments : List String) :
    Outcome CommandError (List String) := do
  match u.memberType? name with
  | none => .error (.member u.name name .notFound)
  | some t =>
    let values ← .ofExcept (readArguments name (Wasm.engine.params t) arguments)
    let results ← (u.invoke name values).1.mapError (.member u.name name)
    return results.map showValue

/-! ## Commands -/

/-- What a run depends on besides its arguments. -/
structure Surroundings where
  /-- The files. -/
  files : Files
  /-- The hint paths that the environment sets. -/
  hintPaths : Option String := none
  /-- What the name of a new unit ends in. -/
  ending : String

/-- The configuration: that of a file, or else the default one, changed by the environment, with
further hint paths in front of its own. -/
def configure (s : Surroundings) (path : Option String) (hintPaths : List String) :
    Except CommandError GeneratorConfig := do
  let c ←
    match path with
    | none => pure {}
    | some path => (GeneratorConfig.ofFile s.files path).mapError .config
  let c := c.withEnvironment s.hintPaths
  return { c with resolver := { c.resolver with hintPaths := hintPaths ++ c.resolver.hintPaths } }

/-- The configuration of a run that compiles. -/
def configureCompile (s : Surroundings) (a : CompileArguments) :
    Except CommandError GeneratorConfig := do
  let c ← configure s a.config a.hintPaths
  return { c with
    compiler := { c.compiler with kind := a.compiler.getD c.compiler.kind }
    gateway := { c.gateway with
      warningsAsErrors := c.gateway.warningsAsErrors || a.warningsAsErrors } }

/-- References units one after the other, up to the first that cannot be resolved. -/
def referenceAll (files : Files) (g : Generator Wasm.engine) (paths : List String) :
    Except CommandError (Generator Wasm.engine) :=
  paths.foldlM
    (fun g path =>
      let r := g.referenceFile files path
      match r.result with
      | .ok _ => .ok r.generator
      | .error e => .error (.resolve e))
    g

/-- What a run has to do before it compiles: the generator and the source. -/
def prepare (s : Surroundings) (a : CompileArguments) :
    Except CommandError (Generator Wasm.engine × String) := do
  let g ← referenceAll s.files (.ofConfig (← configureCompile s a)) a.references
  match s.files.readText a.source with
  | .ok source => return (g, source)
  | .error f => throw (.source a.source f)

/-- The member that a run calls: the one that is asked for, or the entry point of a command. -/
def memberToCall (a : CompileArguments) : Option String :=
  match a.member, a.kind with
  | some name, _ => some name
  | none, .command => some OutputKind.entryPoint
  | none, .library => none

/-- Lines of output. -/
def unlines (lines : List String) : String :=
  String.join (lines.map (· ++ "\n"))

/-- Compiles a unit, writes its name and perhaps calls a member. -/
def runCompile (s : Surroundings) (a : CompileArguments) : CommandResult :=
  match prepare s a with
  | .error e => { ending := .error e }
  | .ok (g, source) =>
    let d := g.generate s.files s.ending a.kind source
    match d.result with
    | .error e => { ending := .error (.compile e), calls := d.calls }
    | .endless => { ending := .endless, calls := d.calls }
    | .ok u =>
      match memberToCall a with
      | none => { output := unlines [u.name], calls := d.calls }
      | some name =>
        match callMember u name a.arguments with
        | .ok lines => { output := unlines (u.name :: lines), calls := d.calls }
        | .error e => { output := unlines [u.name], ending := .error e, calls := d.calls }
        | .endless => { output := unlines [u.name], ending := .endless, calls := d.calls }

/-- Lists the references of a unit. -/
def runResolve (s : Surroundings) (a : ResolveArguments) : CommandResult :=
  match configure s a.config a.hintPaths with
  | .error e => { ending := .error e }
  | .ok c =>
    let r : Resolver := { config := c.resolver, inspector := .wasm }
    match (r.resolve s.files (.atPath a.unit)).result with
    | .error e => { ending := .error (.resolve e) }
    | .ok set => { output := unlines [set.report.pretty] }

/-- The version. -/
def versionText : String := "dyngen 0.1.0"

/-- How the command line is used. -/
def helpText : List String :=
  ["Compile and load generated units",
   "",
   "Usage: dyngen compile [OPTIONS] <SOURCE>",
   "       dyngen resolve [OPTIONS] <UNIT>",
   "",
   "Options of both commands:",
   "  --config <PATH>              TOML configuration file",
   "  --hint-path <DIR>            directory searched for units without a location",
   "",
   "Options of compile:",
   "  --reference <PATH>           unit to reference, with everything that it needs",
   "  --compiler <wat|rustc>       compiler to use",
   "  --kind <library|command>     what the unit is made for",
   "  --warnings-as-errors         let warnings fail the compilation",
   "  --invoke <MEMBER>            member to call after loading",
   "  --arg <VALUE>                argument of the call"]

/-- Runs a command line. -/
def run (s : Surroundings) : CommandLine → CommandResult
  | .version => { output := unlines [versionText] }
  | .help => { output := unlines helpText }
  | .compile a => runCompile s a
  | .resolve a => runResolve s a

/-- The exit code of a run with arguments that are used wrongly. -/
def misuseCode : Nat := 2

end CommandLine

/-- Why a run fails, if it does. -/
def CommandResult.error? (r : CommandResult) : Option CommandError :=
  match r.ending with
  | .error e => some e
  | _ => none

/-- The exit code of a run, if it ends. -/
def CommandResult.exitCode? (r : CommandResult) : Option Nat :=
  match r.ending with
  | .ok _ => some 0
  | .error _ => some 1
  | .endless => none

end UnitFoundry
