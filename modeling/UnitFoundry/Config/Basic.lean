import UnitFoundry.Files.Path
import UnitFoundry.Wasm.Wasi

/-! # Configuration

The configuration has a section for each of the three parts that need one: finding references,
compiling and loading units, and the compiler. -/

namespace UnitFoundry

/-- How references are found. -/
structure ResolverConfig where
  /-- The directories that are searched, in order, for units without a location. -/
  hintPaths : List String := []
  /-- The modules of the host that every unit references. -/
  baseline : List String := [Wasm.Wasi.moduleName]
  /-- The file extension of units. -/
  extension : String := "wasm"
deriving DecidableEq, Repr

/-- How units are compiled and loaded. -/
structure GatewayConfig where
  /-- What the names of new units start with. -/
  unitPrefix : String := "unit_"
  /-- Whether warnings of the compiler count as errors. -/
  warningsAsErrors : Bool := false
deriving DecidableEq, Repr

/-- The compilers. -/
inductive CompilerKind where
  /-- The compiler of the WebAssembly text format. -/
  | wat
  /-- The `rustc` executable. -/
  | rustc
deriving DecidableEq, Repr

/-- The name of a compiler. -/
def CompilerKind.name : CompilerKind → String
  | .wat => "wat"
  | .rustc => "rustc"

/-- The compiler of a name. -/
def CompilerKind.ofName? : String → Option CompilerKind
  | "wat" => some .wat
  | "rustc" => some .rustc
  | _ => none

/-- Which compiler is used, and how it is called. -/
structure CompilerConfig where
  /-- The compiler. -/
  kind : CompilerKind := .wat
  /-- The path or the name of the executable. -/
  rustc : String := "rustc"
  /-- The target that it compiles for. -/
  target : String := "wasm32-unknown-unknown"
  /-- The edition of the language. -/
  edition : String := "2021"
  /-- Further arguments. -/
  extraArguments : List String := []
deriving DecidableEq, Repr

/-- The whole configuration. -/
structure GeneratorConfig where
  /-- How references are found. -/
  resolver : ResolverConfig := {}
  /-- How units are compiled and loaded. -/
  gateway : GatewayConfig := {}
  /-- Which compiler is used. -/
  compiler : CompilerConfig := {}
deriving DecidableEq, Repr

namespace GeneratorConfig

/-- The name of the environment variable that replaces the hint paths. -/
def hintPathsVariable : String := "DYNGEN_HINT_PATHS"

/-- The paths of a list that colons separate. -/
def splitPaths (s : String) : List String :=
  (go s.toList).map String.ofList
where
  /-- Splits characters at colons. -/
  go : List Char → List (List Char)
    | [] => [[]]
    | c :: cs =>
      match go cs with
      | [] => [[c]]
      | p :: ps => if c = ':' then [] :: p :: ps else (c :: p) :: ps

/-- The configuration with the hint paths of the environment, if it sets them. -/
def withEnvironment (c : GeneratorConfig) (hints : Option String) : GeneratorConfig :=
  match hints with
  | some s => { c with resolver := { c.resolver with hintPaths := splitPaths s } }
  | none => c

/-- Whether every setting has its default. Paths are compared part by part. -/
def isDefault (c : GeneratorConfig) : Bool :=
  let d : GeneratorConfig := {}
  Path.parts c.compiler.rustc = Path.parts d.compiler.rustc &&
    { c with compiler := { c.compiler with rustc := d.compiler.rustc } } = d

end GeneratorConfig

end UnitFoundry
