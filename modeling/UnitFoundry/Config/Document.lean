import UnitFoundry.Config.Basic
import UnitFoundry.Files.Basic
import UnitFoundry.Toml.Reader

/-! # Configuration files

A configuration is read from a TOML document with a section for each part. A section is a table of
its settings, or an array of them in their order; what it leaves out has its default, and what it
holds besides is ignored. -/

namespace UnitFoundry

/-- Why a configuration cannot be read. -/
inductive ConfigError where
  /-- The file cannot be read. -/
  | unreadable (path : String) (f : Fault)
  /-- The text is no TOML document. -/
  | malformed
  /-- A setting has a value of a kind that it cannot have. -/
  | unfit
deriving DecidableEq, Repr

namespace ConfigError

/-- The cause, for a reader. -/
def cause : ConfigError → String
  | .unreadable _ f => f.message
  | .malformed => "the document is malformed"
  | .unfit => "a setting has a value of the wrong kind"

/-- What the error says to a reader. -/
def message (e : ConfigError) : String :=
  match e with
  | .unreadable path _ => "Failed to read config file '" ++ path ++ "': " ++ e.cause
  | .malformed | .unfit => "Invalid config: " ++ e.cause

end ConfigError

/-! ## Settings -/

namespace Setting

/-- Reads a setting that has a default. -/
def orElse {α : Type} (default_ : α) (read : Toml.Value → Option α) : Option Toml.Value → Option α
  | none => some default_
  | some v => read v

/-- Reads a text. -/
def text? : Toml.Value → Option String
  | .string s => some s
  | _ => none

/-- Reads a truth value. -/
def boolean? : Toml.Value → Option Bool
  | .boolean b => some b
  | _ => none

/-- Reads texts. -/
def texts? : Toml.Value → Option (List String)
  | .array items | .tables items => items.mapM text?
  | _ => none

/-- Whether a value holds nothing. -/
def isVoid : Toml.Value → Bool
  | .array items | .tables items => items.isEmpty
  | .table _ entries => entries.isEmpty
  | _ => false

/-- Reads the name of a compiler: as a text, or as the only key of a table, whose value holds
nothing. -/
def compilerKind? : Toml.Value → Option CompilerKind
  | .string s => CompilerKind.ofName? s
  | .table _ [(key, v)] => if isVoid v then CompilerKind.ofName? key else none
  | _ => none

/-- The value of each setting of a section, in the order of their names. A date has settings of
its own only. -/
def section? (names : List String) : Toml.Value → Option (List (Option Toml.Value))
  | .table _ entries => some (names.map (Toml.Entries.get? entries))
  | .array items | .tables items => some (names.zipIdx.map fun (_, i) => items[i]?)
  | .datetime _ => some (names.map fun _ => none)
  | _ => none

end Setting

open Setting

/-- Reads the section on references. -/
def ResolverConfig.ofValue? (v : Toml.Value) : Option ResolverConfig := do
  let d : ResolverConfig := {}
  match ← section? ["hint_paths", "baseline", "extension"] v with
  | [hintPaths, baseline, extension] =>
    return { hintPaths := ← orElse d.hintPaths texts? hintPaths
             baseline := ← orElse d.baseline texts? baseline
             extension := ← orElse d.extension text? extension }
  | _ => none

/-- Reads the section on units. -/
def GatewayConfig.ofValue? (v : Toml.Value) : Option GatewayConfig := do
  let d : GatewayConfig := {}
  match ← section? ["unit_prefix", "warnings_as_errors"] v with
  | [unitPrefix, warningsAsErrors] =>
    return { unitPrefix := ← orElse d.unitPrefix text? unitPrefix
             warningsAsErrors := ← orElse d.warningsAsErrors boolean? warningsAsErrors }
  | _ => none

/-- Reads the section on the compiler. -/
def CompilerConfig.ofValue? (v : Toml.Value) : Option CompilerConfig := do
  let d : CompilerConfig := {}
  match ← section? ["kind", "rustc", "target", "edition", "extra_args"] v with
  | [kind, rustc, target, edition, extraArguments] =>
    return { kind := ← orElse d.kind compilerKind? kind
             rustc := ← orElse d.rustc text? rustc
             target := ← orElse d.target text? target
             edition := ← orElse d.edition text? edition
             extraArguments := ← orElse d.extraArguments texts? extraArguments }
  | _ => none

namespace GeneratorConfig

/-- Reads a configuration from the entries of a document. -/
def ofEntries? (es : Toml.Entries) : Option GeneratorConfig := do
  return { resolver := ← orElse {} ResolverConfig.ofValue? (es.get? "resolver")
           gateway := ← orElse {} GatewayConfig.ofValue? (es.get? "gateway")
           compiler := ← orElse {} CompilerConfig.ofValue? (es.get? "compiler") }

/-- Reads a configuration from a text. -/
def ofText (s : String) : Except ConfigError GeneratorConfig :=
  match Toml.read? s with
  | none => .error .malformed
  | some es =>
    match ofEntries? es with
    | none => .error .unfit
    | some c => .ok c

/-- Reads a configuration from a file. -/
def ofFile (files : Files) (path : String) : Except ConfigError GeneratorConfig :=
  match files.readText path with
  | .error f => .error (.unreadable path f)
  | .ok s => ofText s

end GeneratorConfig

end UnitFoundry
